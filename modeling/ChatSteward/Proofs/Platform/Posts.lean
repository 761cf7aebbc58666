import ChatSteward.Platform.Post
import ChatSteward.Proofs.Json.Restoring
import ChatSteward.Proofs.Platform.Outcome

/-!
# Posts in JSON text

What is written for a post is restored as the post, whatever its locales, titles, lines and
elements are: elements from their kind and their fields, lines and bodies from their elements, and
the post from its bodies. The rules of writing and of reading are stated apart from each other.
They meet in a text that leaves out that its entities stay as they are, which is what is read when
nothing is said about them.

So the text that is written for a post is canonical: it is decoded as the post, no other post has
the same text, and whatever else is decoded as the post is written as this text.

## Main results

* `PostElement.restores`, `PostBody.restores`, `Post.restores` — what is written is restored
* `Post.text_round_trip` — texts and posts
-/

namespace ChatSteward.Platform

open Json

/-! ## Elements -/

namespace PostElement

theorem textRecord_commutes : textRecord.fields.Pairwise Field.Commutes := by
  apply List.pairwise_pair.mpr
  exact Field.commutes_of_set fun content unescaped element => by cases element <;> rfl

theorem linkRecord_commutes : linkRecord.fields.Pairwise Field.Commutes := by
  apply List.pairwise_pair.mpr
  exact Field.commutes_of_set fun content address element => by cases element <;> rfl

theorem imageRecord_commutes : imageRecord.fields.Pairwise Field.Commutes := by
  refine .cons ?_ (List.pairwise_pair.mpr ?_)
  · rw [List.forall_mem_cons, List.forall_mem_singleton]
    exact ⟨Field.commutes_of_set fun key width element => by cases element <;> rfl,
      Field.commutes_of_set fun key height element => by cases element <;> rfl⟩
  · exact Field.commutes_of_set fun width height element => by cases element <;> rfl

/-- Every element is restored from its kind and its fields. -/
theorem restores (depth : Nat) (element : PostElement) :
    tagged.decoder.Restores (depth + 1) element.json element := by
  have htext (s : String) := Decoder.restores_text depth s
  cases element with
  | text content unescaped =>
    cases unescaped with
    | false =>
      -- nothing is written about the entities, and they stay as they are at the start
      have hassigns : textRecord.Assigns depth [("text", .text content)] _ :=
        .cons rfl ((htext content).map _) .nil
      have hadmits : textRecord.Admits ["text"] := ⟨by decide, rfl⟩
      have hnot : tagged.tag ∉ ["text"] := by decide
      exact Tagged.restores_of_assigns rfl hassigns hadmits hnot textRecord_commutes
    | true =>
      have hassigns : textRecord.Assigns depth
          [("text", .text content), ("un_escape", .boolean true)] _ :=
        .cons rfl ((htext content).map _)
          (.cons rfl ((Decoder.restores_boolean depth true).map _) .nil)
      have hadmits : textRecord.Admits ["text", "un_escape"] := ⟨by decide, rfl⟩
      have hnot : tagged.tag ∉ ["text", "un_escape"] := by decide
      exact Tagged.restores_of_assigns rfl hassigns hadmits hnot textRecord_commutes
  | link content address =>
    have hassigns : linkRecord.Assigns depth
        [("text", .text content), ("href", .text address)] _ :=
      .cons rfl ((htext content).map _) (.cons rfl ((htext address).map _) .nil)
    have hadmits : linkRecord.Admits ["text", "href"] := ⟨by decide, rfl⟩
    have hnot : tagged.tag ∉ ["text", "href"] := by decide
    exact Tagged.restores_of_assigns rfl hassigns hadmits hnot linkRecord_commutes
  | mention user =>
    have hassigns : mentionRecord.Assigns depth [("user_id", .text user)] _ :=
      .cons rfl ((htext user).map _) .nil
    have hadmits : mentionRecord.Admits ["user_id"] := ⟨by decide, rfl⟩
    have hnot : tagged.tag ∉ ["user_id"] := by decide
    exact Tagged.restores_of_assigns rfl hassigns hadmits hnot (List.pairwise_singleton _ _)
  | image key width height =>
    have hassigns : imageRecord.Assigns depth
        [("image_key", .text key), ("width", .ofNat width.toNat),
          ("height", .ofNat height.toNat)] _ :=
      .cons rfl ((htext key).map _)
        (.cons rfl ((Decoder.restores_word32 depth width).map _)
          (.cons rfl ((Decoder.restores_word32 depth height).map _) .nil))
    have hadmits : imageRecord.Admits ["image_key", "width", "height"] := ⟨by decide, rfl⟩
    have hnot : tagged.tag ∉ ["image_key", "width", "height"] := by decide
    exact Tagged.restores_of_assigns rfl hassigns hadmits hnot imageRecord_commutes

end PostElement

/-! ## Bodies and posts -/

/-- Every body is restored from its title and its lines. -/
theorem PostBody.restores (depth : Nat) (body : PostBody) :
    PostBody.record.decoder.Restores (depth + 4) body.json body := by
  have hlines : PostElement.tagged.decoder.list.list.Restores (depth + 3)
      (.array (body.lines.map fun line => .array (line.map PostElement.json))) body.lines :=
    Decoder.restores_list fun line _ =>
      Decoder.restores_list fun element _ => PostElement.restores depth element
  have hassigns : PostBody.record.Assigns (depth + 3)
      [("title", .text body.title),
        ("content", .array (body.lines.map fun line => .array (line.map PostElement.json)))] _ :=
    .cons rfl ((Decoder.restores_text (depth + 3) body.title).map _) (.cons rfl (hlines.map _) .nil)
  have hcommutes : PostBody.record.fields.Pairwise Field.Commutes :=
    List.pairwise_pair.mpr (Field.commutes_of_set fun title lines body => rfl)
  have hadmits : PostBody.record.Admits ["title", "content"] := ⟨by decide, rfl⟩
  exact Record.restores_of_assigns hassigns hadmits hcommutes

namespace Post

/-- Every post is restored from its bodies. -/
theorem restores (depth : Nat) (post : Post) :
    Post.decoder.Restores (depth + 5) post.json post := by
  have hbodies : PostBody.record.decoder.dictionary.Restores (depth + 5) post.json post.bodies :=
    Decoder.restores_dictionary post.rising fun pair _ => PostBody.restores depth pair.2
  -- the bodies are sorted by their locales once more, which changes nothing
  have hpost : (⟨Dictionary.ofPairs post.bodies, Dictionary.rising_ofPairs post.bodies⟩ : Post) =
      post := by
    obtain ⟨bodies, hrising⟩ := post
    simp only [Dictionary.ofPairs_of_rising hrising]
  have hrestores := hbodies.map fun pairs =>
    (⟨Dictionary.ofPairs pairs, Dictionary.rising_ofPairs pairs⟩ : Post)
  rwa [hpost] at hrestores

/-- The post of a text that is read as a generic value first. -/
def throughValue (bytes : List UInt8) : Option Post :=
  (Decoder.value.decode bytes).toOption.bind fun value => (Post.decoder.ofValue value).toOption

/-- The text that is written for a post is decoded as the post. -/
@[simp] theorem decode_written (post : Post) :
    Post.decoder.decode (Text.encodeUtf8 post.json.written) = .ok post :=
  (post.restores 122).decode

@[simp] theorem throughValue_written (post : Post) :
    throughValue (Text.encodeUtf8 post.json.written) = some post := by
  have hrestores := post.restores 122
  rw [throughValue, hrestores.writable.decode, Except.toOption, Option.bind_some,
    hrestores.ofSorted]
  rfl

/-- Posts are told apart by their texts. -/
theorem eq_of_written {post other : Post} (hwritten : post.json.written = other.json.written) :
    post = other := by
  have hdecode := decode_written post
  rw [hwritten, decode_written other] at hdecode
  exact (Except.ok.inj hdecode).symm

/-- The text that is written for a post is decoded as the post, be it directly or by way of a
generic value, and so is the generic value that a post is turned into. Whatever text a post was
decoded from, the text that is written for it is decoded as the same post, is written again as
itself, and is the text of no other post. -/
theorem text_round_trip :
    (∀ post : Post,
      Post.decoder.decode (Text.encodeUtf8 post.json.written) = .ok post ∧
      throughValue (Text.encodeUtf8 post.json.written) = some post ∧
      Post.decoder.ofValue post.json.sorted = .ok post) ∧
    ∀ bytes post, Post.decoder.decode bytes = .ok post ∨ throughValue bytes = some post →
      ∃ text, text = post.json.written ∧
        Post.decoder.decode (Text.encodeUtf8 text) = .ok post ∧
        (∀ again, Post.decoder.decode (Text.encodeUtf8 text) = .ok again →
          again.json.written = text) ∧
        ∀ other : Post, other.json.written = text → other = post := by
  constructor
  · intro post
    exact ⟨decode_written post, throughValue_written post, (post.restores 0).ofSorted⟩
  · intro bytes post _
    refine ⟨post.json.written, rfl, decode_written post, ?_, fun other => eq_of_written⟩
    intro again hagain
    rw [decode_written] at hagain
    rw [Except.ok.inj hagain]

/-- A body in the form of an array is written as an object. -/
theorem decode_arrayBody :
    ∃ post : Post,
      Post.decoder.decode (Text.encodeUtf8 "\x7b\"zh_cn\":[\"t\\u0000\"]\x7d") = .ok post ∧
      post.json.written = "\x7b\"zh_cn\":\x7b\"title\":\"t\\u0000\",\"content\":[]\x7d\x7d" ∧
      Post.decoder.decode (Text.encodeUtf8 post.json.written) = .ok post := by
  have hview : (Post.decoder.decode
        (Text.encodeUtf8 "\x7b\"zh_cn\":[\"t\\u0000\"]\x7d")).toOption.map (·.json.written) =
      some "\x7b\"zh_cn\":\x7b\"title\":\"t\\u0000\",\"content\":[]\x7d\x7d" := by
    decide +kernel
  obtain ⟨post, hdecode, hwritten⟩ := exists_of_toOption_map hview
  obtain ⟨text, rfl, hagain, -, -⟩ := text_round_trip.2 _ post (.inl hdecode)
  exact ⟨post, hdecode, hwritten, hagain⟩

end Post

end ChatSteward.Platform
