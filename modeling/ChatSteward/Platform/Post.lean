import ChatSteward.Json.Tagged
import ChatSteward.Json.Writer

/-!
# Posts

Rich-text messages. A post has a body for every locale it is written in; a body has a title and
lines; a line is a list of elements: text, links, mentions of users, and images.

## Main definitions

* `PostElement`, `PostBody`, `Post` — the types
* `Post.ofBody` — a post in one locale
* `PostBody.withTitle`, `PostBody.withLine`, `PostBody.withText` — bodies line by line
* `Post.decoder` — posts in JSON text
* `Post.json` — the value to be written for a post
-/

namespace ChatSteward.Platform

open Json (Record Tagged Decoder Value)

/-- An element of a line. -/
inductive PostElement where
  /-- Text, with entities to be resolved or not. -/
  | text (content : String) (unescaped : Bool)
  | link (content : String) (address : String)
  /-- The mention of a user. -/
  | mention (user : String)
  /-- An uploaded image with its size in pixels. -/
  | image (key : String) (width height : UInt32)
deriving DecidableEq, Repr

/-- A post in one locale. -/
structure PostBody where
  title : String
  lines : List (List PostElement)
deriving DecidableEq, Repr

/-- A post by locale. -/
structure Post where
  bodies : List (String × PostBody)
  rising : Dictionary.Rising bodies
deriving DecidableEq

namespace PostBody

/-- The body without title and lines. -/
def empty : PostBody := ⟨"", []⟩

/-- The body under another title. -/
def withTitle (body : PostBody) (title : String) : PostBody := { body with title }

/-- The body with one more line. -/
def withLine (body : PostBody) (line : List PostElement) : PostBody :=
  { body with lines := body.lines ++ [line] }

/-- The body with one more line of text. -/
def withText (body : PostBody) (text : String) : PostBody := body.withLine [.text text false]

end PostBody

namespace Post

/-- The post in no locale. -/
def empty : Post := ⟨[], List.Pairwise.nil⟩

/-- The post in one locale. -/
def ofBody (locale : String) (body : PostBody) : Post :=
  ⟨[(locale, body)], List.pairwise_singleton _ _⟩

/-- The body in a locale. -/
def body? (post : Post) (locale : String) : Option PostBody :=
  Dictionary.lookup? locale post.bodies

/-- Whether a post is in no locale. -/
def isEmpty (post : Post) : Bool := post.bodies.isEmpty

end Post

/-! ## Decoding -/

namespace PostElement

/-- How a text is decoded. -/
def textRecord : Record PostElement where
  title := "struct variant PostTag::Text"
  fields :=
    [.required "text" Decoder.text fun value element =>
       match element with
       | .text _ unescaped => .text value unescaped
       | other => other,
     .defaulted "un_escape" Decoder.boolean fun value element =>
       match element with
       | .text content _ => .text content value
       | other => other]
  start := .text "" false

/-- How a link is decoded. -/
def linkRecord : Record PostElement where
  title := "struct variant PostTag::A"
  fields :=
    [.required "text" Decoder.text fun value element =>
       match element with
       | .link _ address => .link value address
       | other => other,
     .required "href" Decoder.text fun value element =>
       match element with
       | .link content _ => .link content value
       | other => other]
  start := .link "" ""

/-- How a mention is decoded. -/
def mentionRecord : Record PostElement where
  title := "struct variant PostTag::At"
  fields := [.required "user_id" Decoder.text fun value _ => .mention value]
  start := .mention ""

/-- How an image is decoded. -/
def imageRecord : Record PostElement where
  title := "struct variant PostTag::Img"
  fields :=
    [.required "image_key" Decoder.text fun value element =>
       match element with
       | .image _ width height => .image value width height
       | other => other,
     .defaulted "width" Decoder.word32 fun value element =>
       match element with
       | .image key _ height => .image key value height
       | other => other,
     .defaulted "height" Decoder.word32 fun value element =>
       match element with
       | .image key width _ => .image key width value
       | other => other]
  start := .image "" 0 0

/-- The kinds of elements, told apart by their tag. -/
def tagged : Tagged PostElement where
  title := "internally tagged enum PostTag"
  tag := "tag"
  variants :=
    [("text", textRecord), ("a", linkRecord), ("at", mentionRecord), ("img", imageRecord)]

end PostElement

/-- How a body is decoded. -/
def PostBody.record : Record PostBody where
  title := "struct PostOfLocale"
  fields :=
    [.defaulted "title" Decoder.text fun title body => { body with title },
     .defaulted "content" PostElement.tagged.decoder.list.list fun lines body =>
       { body with lines }]
  start := .empty

/-- Posts in JSON text: an object of bodies by locale. -/
def Post.decoder : Decoder Post :=
  PostBody.record.decoder.dictionary.map fun pairs =>
    ⟨Dictionary.ofPairs pairs, Dictionary.rising_ofPairs pairs⟩

/-! ## Writing -/

/-- The value to be written for an element: the tag, then the fields. A text states only that
its entities are to be resolved, not that they are not. -/
def PostElement.json : PostElement → Value
  | .text content unescaped =>
    .object
      ([("tag", .text "text"), ("text", .text content)] ++
        Json.memberUnless (!unescaped) "un_escape" (.boolean unescaped))
  | .link content address =>
    .object [("tag", .text "a"), ("text", .text content), ("href", .text address)]
  | .mention user => .object [("tag", .text "at"), ("user_id", .text user)]
  | .image key width height =>
    .object
      [("tag", .text "img"), ("image_key", .text key), ("width", .ofNat width.toNat),
       ("height", .ofNat height.toNat)]

/-- The value to be written for a body. -/
def PostBody.json (body : PostBody) : Value :=
  .object
    [("title", .text body.title),
     ("content", .array (body.lines.map fun line => .array (line.map PostElement.json)))]

/-- The value to be written for a post. -/
def Post.json (post : Post) : Value :=
  .object (post.bodies.map fun pair => (pair.1, pair.2.json))

end ChatSteward.Platform
