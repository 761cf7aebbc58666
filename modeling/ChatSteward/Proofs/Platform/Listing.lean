import ChatSteward.Proofs.Platform.Outcome

/-!
# The listing of chats, page by page

The platform gives its chats in pages. A page leads to the next one by a token, unless it says
that there is no more, has no token, or repeats the token that it was asked for under. Each page
is asked for once, under the token of the page before it, and the chats of all pages are kept in
their order, those of the last page included. A page that does not come ends the listing with its
failure, and the chats of the pages before it are lost.

The client may change between two pages, as a token of access may be renewed in the meantime.

## Main definitions

* `BringsPage`, `pageOf` — an answer that brings a page, and what comes of any answer
* `IsLastPage` — a page that ends the listing
* `Client.AsksForPage` — the request of a page
* `LeadingPage`, `LeadOn` — pages that lead on, one to the other

## Main results

* `Job.resume_of_last_page`, `Job.resume_of_leading_page`, `Job.resume_of_no_page` — one turn of a
  listing
* `Job.afterTurns_leading` — a listing after the pages that lead on
* `listing_of_pages` — no page is lost and none is kept twice
-/

namespace ChatSteward.Platform

open Dialogue (query)

/-! ## Pages -/

/-- What becomes of the request of a page: the page, or why there is none. -/
def pageOf (url : Http.Url) (delivery : Http.Delivery) : Except Failure ChatPage :=
  (readBody url delivery).bind (Reply.dataOfText chatPageData)

/-- Whether an answer brings a page: it accepts the request, and its body is a reply without a
rejection that has the page as its data. -/
def BringsPage (delivery : Http.Delivery) (page : ChatPage) : Prop :=
  ∃ body, Accepted delivery body ∧ Operation.listChats.Gives body page

/-- Whether a page that was asked for under a token ends the listing. -/
def IsLastPage (token : String) (page : ChatPage) : Prop :=
  page.hasMore = false ∨ page.nextToken = "" ∨ page.nextToken = token

instance (token : String) (page : ChatPage) : Decidable (IsLastPage token page) :=
  inferInstanceAs (Decidable (_ ∨ _ ∨ _))

/-- The request of a page: the size of a page and the token, but no token for the first page. -/
def Client.AsksForPage (client : Client) (token : String) (request : Http.Request) : Prop :=
  ∃ bearer, client.token = some bearer ∧
    client.build (some ("Bearer " ++ bearer))
      (.get "/chat/v4/list"
        (("page_size", "200") :: if token = "" then [] else [("page_token", token)])) =
      .ok request

theorem Client.asksForPage_iff {client : Client} {chats : List ChatSummary} {token : String}
    {request : Http.Request} :
    client.AsksForPage token request ↔
      client.request .listChats ⟨chats, token⟩ = .ok request := by
  rw [AsksForPage, Client.request]
  cases client.token with
  | none => simp
  | some bearer => simp [Operation.call, listPageSize, String.isEmpty_iff]

/-- What a listing makes of a body is what it makes of the page in it. -/
theorem readBody_bind_receive (url : Http.Url) (delivery : Http.Delivery) (listing : Listing) :
    (readBody url delivery).bind (Operation.listChats.receive listing) =
      (pageOf url delivery).map listing.extend := by
  rw [pageOf]
  cases readBody url delivery <;> rfl

/-- A page is read from a body exactly if the body gives it. -/
@[simp] theorem dataOfText_eq_ok_iff {body : String} {page : ChatPage} :
    Reply.dataOfText chatPageData body = .ok page ↔ Operation.listChats.Gives body page := by
  rw [Reply.dataOfText, Reply.ofText, Operation.Gives]
  change _ ↔ ∃ reply : Reply ChatPage,
    (Reply.record chatPageData).decoder.decode (Text.encodeUtf8 body) = .ok reply ∧
      reply.code = 0 ∧ reply.data = some page
  cases (Reply.record chatPageData).decoder.decode (Text.encodeUtf8 body) with
  | error fault => simp
  | ok reply =>
    obtain ⟨code, text, data⟩ := reply
    by_cases hcode : code = 0
    · cases data <;> simp [Reply.rejection?, hcode]
    · simp [Reply.rejection?, hcode]

@[simp] theorem pageOf_eq_ok_iff {url : Http.Url} {delivery : Http.Delivery} {page : ChatPage} :
    pageOf url delivery = .ok page ↔ BringsPage delivery page := by
  rw [pageOf, BringsPage]
  constructor
  · intro hpage
    cases hbody : readBody url delivery with
    | error failure =>
      rw [hbody] at hpage
      cases hpage
    | ok body =>
      rw [hbody] at hpage
      exact ⟨body, readBody_eq_ok_iff.mp hbody, dataOfText_eq_ok_iff.mp hpage⟩
  · rintro ⟨body, haccepted, hgives⟩
    rw [readBody_eq_ok_iff.mpr haccepted]
    exact dataOfText_eq_ok_iff.mpr hgives

theorem Listing.extend_of_last {token : String} {page : ChatPage}
    (hlast : IsLastPage token page) (chats : List ChatSummary) :
    extend ⟨chats, token⟩ page = .finished (chats ++ page.chats) := by
  rw [extend]
  apply if_pos
  rwa [String.isEmpty_iff]

theorem Listing.extend_of_leading {token : String} {page : ChatPage}
    (hleads : ¬ IsLastPage token page) (chats : List ChatSummary) :
    extend ⟨chats, token⟩ page = .more ⟨chats ++ page.chats, page.nextToken⟩ := by
  rw [extend]
  apply if_neg
  rwa [String.isEmpty_iff]

/-! ## One turn of a listing -/

namespace Job

variable {R : Type} {client : Client} {delivery : Http.Delivery} {request : Http.Request}
  {token : String} {page : ChatPage}

/-- A page that does not come ends the listing with its failure. -/
theorem resume_of_no_page {failure : Failure}
    (hfails : pageOf request.url delivery = .error failure) (client : Client) (listing : Listing)
    (next : Answer .listChats → Consultation R) :
    resume client delivery (.waiting request .listChats listing next) =
      start client (next (.error failure)) := by
  rw [resume, readBody_bind_receive, hfails]
  rfl

/-- The last page ends the listing; its chats are kept. -/
theorem resume_of_last_page (hbrings : BringsPage delivery page) (hlast : IsLastPage token page)
    (client : Client) (request : Http.Request) (chats : List ChatSummary)
    (next : Answer .listChats → Consultation R) :
    resume client delivery (.waiting request .listChats ⟨chats, token⟩ next) =
      start client (next (.ok (chats ++ page.chats))) := by
  rw [resume, readBody_bind_receive, pageOf_eq_ok_iff.mpr hbrings, Except.map,
    Listing.extend_of_last hlast]

/-- After a page that leads on the next page is asked for. -/
theorem resume_of_leading_page (hbrings : BringsPage delivery page)
    (hleads : ¬ IsLastPage token page) {request' : Http.Request}
    (hasks : client.AsksForPage page.nextToken request') (request : Http.Request)
    (chats : List ChatSummary) (next : Answer .listChats → Consultation R) :
    resume client delivery (.waiting request .listChats ⟨chats, token⟩ next) =
      .waiting request' .listChats ⟨chats ++ page.chats, page.nextToken⟩ next := by
  rw [resume, readBody_bind_receive, pageOf_eq_ok_iff.mpr hbrings, Except.map,
    Listing.extend_of_leading hleads]
  simp only [Client.asksForPage_iff.mp hasks]

/-- If the next page cannot be asked for, the listing ends with the reason. -/
theorem resume_of_unasked_page (hbrings : BringsPage delivery page)
    (hleads : ¬ IsLastPage token page)
    (hunasked : ∀ request', ¬ client.AsksForPage page.nextToken request') (request : Http.Request)
    (chats : List ChatSummary) (next : Answer .listChats → Consultation R) :
    ∃ failure, resume client delivery (.waiting request .listChats ⟨chats, token⟩ next) =
      start client (next (.error failure)) := by
  cases hrequest : client.request .listChats ⟨chats ++ page.chats, page.nextToken⟩ with
  | error failure =>
    refine ⟨failure, ?_⟩
    rw [resume, readBody_bind_receive, pageOf_eq_ok_iff.mpr hbrings, Except.map,
      Listing.extend_of_leading hleads]
    simp only [hrequest]
  | ok request' => exact absurd (Client.asksForPage_iff.mpr hrequest) (hunasked request')

/-- A listing asks for its first page. -/
theorem start_listing (hasks : client.AsksForPage "" request) :
    start client (query .listChats) = .waiting request .listChats .start .done := by
  have hrequest : client.request .listChats .start = .ok request :=
    Client.asksForPage_iff.mp hasks
  simp only [query, start, Operation.immediate?, hrequest]

/-- What follows the turn that ends a job makes no difference. -/
theorem afterTurns_of_ends {job : Job R} {turns : List Turn} {final : Turn} {result : R}
    (hends : (job.afterTurns turns).resume final.client final.delivery = .finished result)
    (later : List Turn) :
    job.afterTurns (turns ++ final :: later) = .finished result := by
  rw [afterTurns_append, afterTurns, List.foldl_cons, hends]
  exact afterTurns_finished result later

/-- Nothing is sent after the turn that ends a job. -/
theorem sendings_of_ends {job : Job R} {turns : List Turn} {final : Turn} {result : R}
    (hends : (job.afterTurns turns).resume final.client final.delivery = .finished result)
    (later : List Turn) : job.sendings (turns ++ final :: later) = job.sendings turns := by
  induction turns generalizing job with
  | nil =>
    change job.resume final.client final.delivery = _ at hends
    change (job.resume final.client final.delivery).sending?.toList ++
      (job.resume final.client final.delivery).sendings later = []
    rw [hends, sendings_finished]
    rfl
  | cons turn turns ih => rw [List.cons_append, sendings, sendings, ih hends]

end Job

/-! ## Pages that lead on -/

/-- A page that leads on, with the turn that brings it and the request of the next page, which the
client of the turn sends. -/
structure LeadingPage where
  page : ChatPage
  turn : Turn
  request : Http.Request

/-- Whether pages lead on, one to the other, the first of them asked for under a token. -/
def LeadOn (token : String) : List LeadingPage → Prop
  | [] => True
  | leading :: rest =>
    BringsPage leading.turn.delivery leading.page ∧ ¬ IsLastPage token leading.page ∧
      leading.turn.client.AsksForPage leading.page.nextToken leading.request ∧
      LeadOn leading.page.nextToken rest

/-- The token under which the page after some pages is asked for. -/
def tokenAfter (token : String) : List LeadingPage → String
  | [] => token
  | leading :: rest => tokenAfter leading.page.nextToken rest

/-- The request of the page after some pages. -/
def requestAfter (request : Http.Request) : List LeadingPage → Http.Request
  | [] => request
  | leading :: rest => requestAfter leading.request rest

namespace Job

variable {R : Type}

/-- After pages that lead on, a listing has their chats and waits for the page after them. -/
theorem afterTurns_leading {token : String} {pages : List LeadingPage}
    (hleads : LeadOn token pages) (request : Http.Request) (chats : List ChatSummary)
    (next : Answer .listChats → Consultation R) :
    (waiting request .listChats ⟨chats, token⟩ next).afterTurns (pages.map (·.turn)) =
      .waiting (requestAfter request pages) .listChats
        ⟨chats ++ pages.flatMap (·.page.chats), tokenAfter token pages⟩ next := by
  -- induction on the pages: each leaves a listing with more chats that waits for the rest
  induction pages generalizing token request chats with
  | nil =>
    rw [List.flatMap_nil, List.append_nil]
    rfl
  | cons leading rest ih =>
    obtain ⟨hbrings, hnotLast, hasks, hrest⟩ := hleads
    rw [List.map_cons, afterTurns, List.foldl_cons,
      resume_of_leading_page hbrings hnotLast hasks, List.flatMap_cons, ← List.append_assoc]
    exact ih hrest leading.request (chats ++ leading.page.chats)

/-- While pages lead on, each next page is asked for once. -/
theorem sendings_leading {token : String} {pages : List LeadingPage}
    (hleads : LeadOn token pages) (request : Http.Request) (chats : List ChatSummary)
    (next : Answer .listChats → Consultation R) :
    ((waiting request .listChats ⟨chats, token⟩ next).sendings (pages.map (·.turn))).map
      (·.request) = pages.map (·.request) := by
  induction pages generalizing token request chats with
  | nil => rfl
  | cons leading rest ih =>
    obtain ⟨hbrings, hnotLast, hasks, hrest⟩ := hleads
    rw [List.map_cons, sendings, resume_of_leading_page hbrings hnotLast hasks, List.map_append,
      ih hrest]
    rfl

end Job

namespace Job

/-- A listing that is ended by the turn after pages that lead on: the request of the first page
and those of the pages after it are all that it sends, whatever comes later. -/
theorem listing_of_ends {client : Client} {first : Http.Request} {pages : List LeadingPage}
    (hfirst : client.AsksForPage "" first) (hleads : LeadOn "" pages) {final : Turn}
    {answer : Answer .listChats}
    (hends : resume final.client final.delivery
      (.waiting (requestAfter first pages) .listChats
        ⟨pages.flatMap (·.page.chats), tokenAfter "" pages⟩ .done) = .finished answer)
    (later : List Turn) :
    (sendingsFrom client (query .listChats) (pages.map (·.turn) ++ final :: later)).map
        (·.request) = first :: pages.map (·.request) ∧
      (start client (query .listChats)).afterTurns (pages.map (·.turn) ++ final :: later) =
        .finished answer := by
  have hafter := afterTurns_leading hleads first [] .done
  rw [← Listing.start, List.nil_append] at hafter
  rw [← hafter] at hends
  have hstart := start_listing hfirst
  constructor
  · rw [sendingsFrom, hstart, sendings_of_ends hends later, List.map_append,
      Listing.start, sendings_leading hleads]
    rfl
  · rw [hstart]
    exact afterTurns_of_ends hends later

end Job

/-- The listing of chats loses no page and keeps none twice. Some pages lead on, each under a
token of its own, and one more answer comes after them. If it brings a last page, the requests are
those of the pages, the first without a token and each other one under the token of the page
before it, and the listing has the chats of all pages in order. If it fails, the same requests are
sent, and the failure is all that comes of the listing. -/
theorem listing_of_pages {client : Client} {first : Http.Request} {pages : List LeadingPage}
    (hfirst : client.AsksForPage "" first) (hleads : LeadOn "" pages) (final : Turn)
    (later : List Turn) :
    (∀ page, BringsPage final.delivery page → IsLastPage (tokenAfter "" pages) page →
      (Job.sendingsFrom client (query .listChats) (pages.map (·.turn) ++ final :: later)).map
          (·.request) = first :: pages.map (·.request) ∧
        (Job.start client (query .listChats)).afterTurns (pages.map (·.turn) ++ final :: later) =
          .finished (.ok (pages.flatMap (·.page.chats) ++ page.chats))) ∧
    (∀ failure, pageOf (requestAfter first pages).url final.delivery = .error failure →
      (Job.sendingsFrom client (query .listChats) (pages.map (·.turn) ++ final :: later)).map
          (·.request) = first :: pages.map (·.request) ∧
        (Job.start client (query .listChats)).afterTurns (pages.map (·.turn) ++ final :: later) =
          .finished (.error failure)) := by
  constructor
  · intro page hbrings hlast
    exact Job.listing_of_ends hfirst hleads
      (Job.resume_of_last_page hbrings hlast _ _ _ _) later
  · intro failure hfails
    exact Job.listing_of_ends hfirst hleads (Job.resume_of_no_page hfails _ _ _) later

/-! ## A listing of three pages -/

/-- A page with one chat and a token of the next page. -/
def listedPage (chat token : String) : ChatPage := ⟨[⟨chat, "", "", ""⟩], true, token⟩

/-- An answer with such a page. -/
def listedAnswer (chat token : String) : Http.Delivery :=
  .answered ⟨.ok, [], Text.encodeUtf8 (
    "\x7b\"data\":\x7b\"groups\":[\x7b\"chat_id\":\"" ++ chat ++
      "\"\x7d],\"has_more\":true,\"page_token\":\"" ++ token ++ "\"\x7d\x7d"), true⟩

/-- A client of a platform. -/
def listingClient (token : String) : Client := ⟨⟨"cli_1", "secret", "http://a", []⟩, some token⟩

theorem bringsPage_of_toOption {response : Http.Response} {body : String} {page : ChatPage}
    (haccepted : Accepted (.answered response) body)
    (hview : ((Reply.record chatPageData).decoder.decode (Text.encodeUtf8 body)).toOption.map
      (fun reply => (reply.code, reply.data)) = some (0, some page)) :
    BringsPage (.answered response) page :=
  ⟨body, haccepted, Operation.gives_of_toOption hview⟩

/-- What can be computed of the request of a page shows that it is asked for. -/
theorem Client.exists_asksForPage (client : Client) (token : String) {target : String}
    (hview : (client.request .listChats ⟨[], token⟩).toOption.map (·.url.target) = some target) :
    ∃ request, client.AsksForPage token request ∧ request.url.target = target := by
  obtain ⟨request, hrequest, htarget⟩ := exists_of_toOption_map hview
  exact ⟨request, asksForPage_iff.mpr hrequest, htarget⟩

theorem bringsPage_first : BringsPage (listedAnswer "a" "p") (listedPage "a" "p") :=
  bringsPage_of_toOption (accepted_of_text rfl rfl rfl) (by decide +kernel)

theorem bringsPage_second : BringsPage (listedAnswer "b" "q") (listedPage "b" "q") :=
  bringsPage_of_toOption (accepted_of_text rfl rfl rfl) (by decide +kernel)

/-- A listing of three pages, the last of which repeats the token that it was asked for under, and
a listing whose second page does not come. The client has another token of access after the first
page. -/
theorem listing_of_three_pages :
    (∃ first second third : Http.Request,
      [first, second, third].map (·.url.target) =
          ["/chat/v4/list?page_size=200", "/chat/v4/list?page_size=200&page_token=p",
            "/chat/v4/list?page_size=200&page_token=q"] ∧
        (Job.sendingsFrom (listingClient "t-1") (query .listChats)
          [⟨listingClient "t-2", listedAnswer "a" "p"⟩,
            ⟨listingClient "t-2", listedAnswer "b" "q"⟩,
            ⟨listingClient "t-2", listedAnswer "c" "q"⟩]).map (·.request) =
          [first, second, third]) ∧
      (Job.start (listingClient "t-1") (query .listChats)).afterTurns
          [⟨listingClient "t-2", listedAnswer "a" "p"⟩,
            ⟨listingClient "t-2", listedAnswer "b" "q"⟩,
            ⟨listingClient "t-2", listedAnswer "c" "q"⟩] =
        .finished (.ok [⟨"a", "", "", ""⟩, ⟨"b", "", "", ""⟩, ⟨"c", "", "", ""⟩]) ∧
      (Job.start (listingClient "t-1") (query .listChats)).afterTurns
          [⟨listingClient "t-2", listedAnswer "a" "p"⟩,
            ⟨listingClient "t-2", .answered ⟨.tooManyRequests, [], [], true⟩⟩] =
        .finished (.error (.rateLimited 30)) := by
  obtain ⟨first, hfirst, hfirstTarget⟩ : ∃ first, (listingClient "t-1").AsksForPage "" first ∧
      first.url.target = "/chat/v4/list?page_size=200" :=
    Client.exists_asksForPage _ _ (by decide +kernel)
  obtain ⟨second, hsecond, hsecondTarget⟩ : ∃ second,
      (listingClient "t-2").AsksForPage "p" second ∧
        second.url.target = "/chat/v4/list?page_size=200&page_token=p" :=
    Client.exists_asksForPage _ _ (by decide +kernel)
  obtain ⟨third, hthird, hthirdTarget⟩ : ∃ third,
      (listingClient "t-2").AsksForPage "q" third ∧
        third.url.target = "/chat/v4/list?page_size=200&page_token=q" :=
    Client.exists_asksForPage _ _ (by decide +kernel)
  have hc : BringsPage (listedAnswer "c" "q") (listedPage "c" "q") :=
    bringsPage_of_toOption (accepted_of_text rfl rfl rfl) (by decide +kernel)
  have hone : LeadOn ""
      [⟨listedPage "a" "p", ⟨listingClient "t-2", listedAnswer "a" "p"⟩, second⟩] :=
    ⟨bringsPage_first, (by decide : ¬ IsLastPage "" (listedPage "a" "p")), hsecond, trivial⟩
  have htwo : LeadOn ""
      [⟨listedPage "a" "p", ⟨listingClient "t-2", listedAnswer "a" "p"⟩, second⟩,
        ⟨listedPage "b" "q", ⟨listingClient "t-2", listedAnswer "b" "q"⟩, third⟩] :=
    ⟨bringsPage_first, (by decide : ¬ IsLastPage "" (listedPage "a" "p")), hsecond,
      bringsPage_second, (by decide : ¬ IsLastPage "p" (listedPage "b" "q")), hthird, trivial⟩
  have hlisted := (listing_of_pages hfirst htwo
    ⟨listingClient "t-2", listedAnswer "c" "q"⟩ []).1 _ hc (.inr (.inr rfl))
  have hfailed := (listing_of_pages hfirst hone
    ⟨listingClient "t-2", .answered ⟨.tooManyRequests, [], [], true⟩⟩ []).2 (.rateLimited 30) rfl
  refine ⟨⟨first, second, third, ?_, hlisted.1⟩, hlisted.2, hfailed.2⟩
  simp only [List.map_cons, List.map_nil, hfirstTarget, hsecondTarget, hthirdTarget]

end ChatSteward.Platform
