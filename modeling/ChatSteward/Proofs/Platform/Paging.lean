import Mathlib.Data.Finset.Card
import ChatSteward.Proofs.Platform.Listing

/-!
# The end of a listing

A platform may keep its pages in a table: every token has its page, and every page that leads on
has the token of another page in the table. A listing walks through such a table from the first
page on. There are only so many tokens, so the walk comes to a last page, or it comes back to a
page where it was before; and from there on it goes round.

The listing ends with the walk, after no more requests than the table has pages. A walk that goes
round is noticed only if a page repeats its own token. On any longer way round the listing goes on
for as long as the platform answers.

## Main definitions

* `Paging` — pages in a table
* `Paging.tokenAt` — the walk through the table
* `Paging.GoesRound` — a walk that comes back to a page before it comes to a last one
* `Paging.Answers` — turns in which the platform answers from the table

## Main results

* `Paging.goesRound_iff` — a walk goes round exactly if it comes to no last page
* `Paging.exists_isLastAt` — the walk that does not go round is no longer than the table
* `Paging.listing_of_paging` — when a listing ends
-/

namespace ChatSteward.Platform

open Dialogue (query)
open Job (start sendingsFrom)

/-- Pages in a table. -/
structure Paging where
  /-- The page that is given for a token; the first page is asked for without one. -/
  page : String → ChatPage
  /-- The tokens of the pages after the first. -/
  tokens : List String
  /-- What leads on leads to a page of the table. -/
  closed : ∀ token, token = "" ∨ token ∈ tokens → ¬ IsLastPage token (page token) →
    (page token).nextToken ∈ tokens

namespace Paging

variable {paging : Paging}

/-! ## The walk through the table -/

/-- The token of the page that comes after `n` others. -/
def tokenAt (paging : Paging) : Nat → String
  | 0 => ""
  | n + 1 => (paging.page (paging.tokenAt n)).nextToken

/-- Whether the page after `n` others is a last one. -/
def IsLastAt (paging : Paging) (n : Nat) : Prop :=
  IsLastPage (paging.tokenAt n) (paging.page (paging.tokenAt n))

instance (n : Nat) : Decidable (paging.IsLastAt n) :=
  inferInstanceAs (Decidable (IsLastPage _ _))

/-- Whether the walk comes back to a page before it comes to a last one. -/
def GoesRound (paging : Paging) : Prop :=
  ∃ first later, first < later ∧ paging.tokenAt first = paging.tokenAt later ∧
    ∀ n < later, ¬ paging.IsLastAt n

/-- As long as the pages lead on, the walk stays in the table. -/
theorem tokenAt_succ_mem {n : Nat} (hleads : ∀ m ≤ n, ¬ paging.IsLastAt m) :
    paging.tokenAt (n + 1) ∈ paging.tokens := by
  induction n with
  | zero => exact paging.closed _ (.inl rfl) (hleads 0 (Nat.le_refl 0))
  | succ n ih =>
    have hbefore := ih fun m hm => hleads m (Nat.le_succ_of_le hm)
    exact paging.closed _ (.inr hbefore) (hleads (n + 1) (Nat.le_refl _))

/-- From one page on there is one way. -/
theorem tokenAt_add {first later : Nat} (hback : paging.tokenAt first = paging.tokenAt later)
    (n : Nat) : paging.tokenAt (first + n) = paging.tokenAt (later + n) := by
  induction n with
  | zero => exact hback
  | succ n ih => rw [← Nat.add_assoc, ← Nat.add_assoc, tokenAt, tokenAt, ih]

/-- A walk that goes round comes to no last page. -/
theorem not_isLastAt_of_goesRound (hround : paging.GoesRound) (n : Nat) : ¬ paging.IsLastAt n := by
  obtain ⟨first, later, hlt, hback, hleads⟩ := hround
  induction n using Nat.strong_induction_on with
  | h n ih =>
    by_cases hbefore : n < later
    · exact hleads n hbefore
    · -- the walk is where it was one round before
      obtain ⟨more, rfl⟩ := Nat.exists_eq_add_of_le (Nat.le_of_not_lt hbefore)
      have hround := ih (first + more) (by omega)
      rwa [IsLastAt, tokenAt_add hback] at hround

/-- A walk that does not go round comes to a last page within the table. -/
theorem exists_isLastAt (hround : ¬ paging.GoesRound) :
    ∃ n ≤ paging.tokens.length, paging.IsLastAt n := by
  -- otherwise more pages lead on than there are tokens to lead to
  by_contra hnone
  have hleads : ∀ n ≤ paging.tokens.length, ¬ paging.IsLastAt n := by
    intro n hn hlast
    exact hnone ⟨n, hn, hlast⟩
  have hwithin : ∀ n ∈ Finset.range (paging.tokens.length + 1),
      paging.tokenAt (n + 1) ∈ paging.tokens.toFinset := by
    intro n hn
    rw [List.mem_toFinset]
    apply tokenAt_succ_mem
    intro m hm
    have hlt := Finset.mem_range.mp hn
    exact hleads m (by omega)
  have hcard : paging.tokens.toFinset.card < (Finset.range (paging.tokens.length + 1)).card := by
    rw [Finset.card_range]
    exact Nat.lt_succ_of_le (List.toFinset_card_le _)
  obtain ⟨first, hfirst, later, hlater, hne, hback⟩ :=
    Finset.exists_ne_map_eq_of_card_lt_of_maps_to hcard hwithin
  -- of two pages with one token either may be the first
  have hcomesBack : ∀ {first later}, first < later → later ≤ paging.tokens.length →
      paging.tokenAt (first + 1) = paging.tokenAt (later + 1) → False := by
    intro first later hlt hle hback
    apply hround
    exact ⟨first + 1, later + 1, by omega, hback, fun n hn => hleads n (by omega)⟩
  rw [Finset.mem_range] at hfirst hlater
  rcases Nat.lt_or_gt_of_ne hne with hlt | hlt
  · exact hcomesBack hlt (by omega) hback
  · exact hcomesBack hlt (by omega) hback.symm

/-- A walk goes round exactly if it comes to no last page. -/
theorem goesRound_iff : paging.GoesRound ↔ ∀ n, ¬ paging.IsLastAt n := by
  constructor
  · exact not_isLastAt_of_goesRound
  · intro hleads
    by_contra hround
    obtain ⟨n, -, hlast⟩ := exists_isLastAt hround
    exact hleads n hlast

/-! ## Answers from the table -/

/-- Whether the platform answers a listing from the table: in each turn the page of the token that
the listing waits for comes. -/
def Answers (paging : Paging) : Job (Answer .listChats) → List Turn → Prop
  | _, [] => True
  | job, turn :: turns =>
    (∀ sending, job.sending? = some sending →
      BringsPage turn.delivery (paging.page sending.listing.token)) ∧
      paging.Answers (job.resume turn.client turn.delivery) turns

/-- Whether a client can ask for every page of the table. -/
def CanAsk (paging : Paging) (client : Client) : Prop :=
  ∀ token, token = "" ∨ token ∈ paging.tokens → ∃ request, client.AsksForPage token request

/-- Whether a listing waits for the page that comes after `n` others. -/
def IsAt (paging : Paging) (n : Nat) (job : Job (Answer .listChats)) : Prop :=
  ∃ request chats, job = .waiting request .listChats ⟨chats, paging.tokenAt n⟩ .done

/-! ## One turn -/

section

variable {n : Nat} {job : Job (Answer .listChats)} {turn : Turn}

/-- What a listing has under way is the request of the page that it waits for. -/
theorem IsAt.brings (hat : paging.IsAt n job) {turns : List Turn}
    (hanswers : paging.Answers job (turn :: turns)) :
    BringsPage turn.delivery (paging.page (paging.tokenAt n)) := by
  obtain ⟨request, chats, rfl⟩ := hat
  exact hanswers.1 _ rfl

/-- After a page that leads on, the listing waits for the page after it. -/
theorem IsAt.resume (hat : paging.IsAt n job)
    (hbrings : BringsPage turn.delivery (paging.page (paging.tokenAt n)))
    (hleads : ¬ paging.IsLastAt n) {request : Http.Request}
    (hasks : turn.client.AsksForPage (paging.tokenAt (n + 1)) request) :
    paging.IsAt (n + 1) (job.resume turn.client turn.delivery) := by
  obtain ⟨before, chats, rfl⟩ := hat
  rw [Job.resume_of_leading_page hbrings hleads hasks]
  exact ⟨request, _, rfl⟩

/-- A page ends the listing, or it leads on and the listing waits for the page after it. -/
theorem IsAt.resume_cases (hat : paging.IsAt n job)
    (hbrings : BringsPage turn.delivery (paging.page (paging.tokenAt n))) :
    (∃ answer, job.resume turn.client turn.delivery = .finished answer) ∨
      ¬ paging.IsLastAt n ∧ paging.IsAt (n + 1) (job.resume turn.client turn.delivery) := by
  by_cases hlast : paging.IsLastAt n
  · obtain ⟨request, chats, rfl⟩ := hat
    exact .inl ⟨_, Job.resume_of_last_page hbrings hlast _ _ _ _⟩
  · by_cases hasks : ∃ request, turn.client.AsksForPage (paging.tokenAt (n + 1)) request
    · obtain ⟨request, hasks⟩ := hasks
      exact .inr ⟨hlast, hat.resume hbrings hlast hasks⟩
    · obtain ⟨request, chats, rfl⟩ := hat
      obtain ⟨failure, hresume⟩ := Job.resume_of_unasked_page hbrings hlast
        (not_exists.mp hasks) request chats .done
      exact .inl ⟨.error failure, hresume⟩

/-- A listing that waits has one request under way. -/
theorem IsAt.sending_length (hat : paging.IsAt n job) : job.sending?.toList.length = 1 := by
  obtain ⟨request, chats, rfl⟩ := hat
  rfl

end

/-! ## Several turns -/

section

variable {n : Nat} {job : Job (Answer .listChats)} {turns : List Turn}

/-- A listing on the way to a last page ends there at the latest. -/
theorem IsAt.ends (hat : paging.IsAt n job) {last : Nat} (hle : n ≤ last)
    (hlast : paging.IsLastAt last) (hanswers : paging.Answers job turns) :
    (job.sendings turns).length ≤ last - n ∧
      (last - n < turns.length → ∃ answer, job.afterTurns turns = .finished answer) := by
  -- induction on the turns: each of them ends the listing or leads one page further
  induction turns generalizing n job with
  | nil => exact ⟨Nat.zero_le _, fun hlt => absurd hlt (Nat.not_lt_zero _)⟩
  | cons turn turns ih =>
    rw [Job.sendings, Job.afterTurns, List.foldl_cons]
    rcases hat.resume_cases (hat.brings hanswers) with ⟨answer, hresume⟩ | ⟨hleads, hnext⟩
    · rw [hresume, Job.sendings_finished]
      exact ⟨Nat.zero_le _, fun _ => ⟨answer, Job.afterTurns_finished answer turns⟩⟩
    · have hne : n ≠ last := by
        rintro rfl
        exact hleads hlast
      obtain ⟨hsent, hends⟩ := ih hnext (by omega) hanswers.2
      rw [List.length_append, hnext.sending_length, List.length_cons]
      exact ⟨by omega, fun hlt => hends (by omega)⟩

/-- A listing on a way without a last page goes on in every turn. -/
theorem IsAt.goes_on (hat : paging.IsAt n job) (hleads : ∀ n, ¬ paging.IsLastAt n)
    (hasks : ∀ turn ∈ turns, paging.CanAsk turn.client) (hanswers : paging.Answers job turns) :
    (job.sendings turns).length = turns.length ∧
      paging.IsAt (n + turns.length) (job.afterTurns turns) := by
  induction turns generalizing n job with
  | nil => exact ⟨rfl, hat⟩
  | cons turn turns ih =>
    have htoken := tokenAt_succ_mem fun m (_ : m ≤ n) => hleads m
    obtain ⟨request, hask⟩ := hasks turn List.mem_cons_self _ (.inr htoken)
    have hnext := hat.resume (hat.brings hanswers) (hleads n) hask
    obtain ⟨hsent, hlater⟩ :=
      ih hnext (fun turn hturn => hasks turn (List.mem_cons_of_mem _ hturn)) hanswers.2
    rw [Job.sendings, List.length_append, hnext.sending_length, hsent, List.length_cons]
    refine ⟨Nat.add_comm _ _, ?_⟩
    rw [← Nat.add_assoc, Nat.add_right_comm]
    exact hlater

end

/-! ## The whole listing -/

/-- A listing waits for its first page, or it has ended because it cannot ask for it. -/
theorem start_cases (paging : Paging) (client : Client) :
    (∃ answer, start client (query Operation.listChats) = .finished answer) ∨
      paging.IsAt 0 (start client (query Operation.listChats)) := by
  cases hrequest : client.request .listChats .start with
  | error failure =>
    refine .inl ⟨.error failure, ?_⟩
    simp only [query, start, Operation.immediate?, hrequest]
  | ok request =>
    refine .inr ⟨request, [], ?_⟩
    exact Job.start_listing (Client.asksForPage_iff.mpr hrequest)

/-- A listing from a table of pages. If the walk through the table does not go round, the listing
ends after no more requests than the table has pages, the first page among them. If it goes round
and the pages can be asked for, the listing goes on for as long as the platform answers. -/
theorem listing_of_paging (paging : Paging) (client : Client) :
    (¬ paging.GoesRound → ∀ turns,
      paging.Answers (start client (query Operation.listChats)) turns →
      (sendingsFrom client (query Operation.listChats) turns).length ≤
          paging.tokens.length + 1 ∧
        (paging.tokens.length < turns.length →
          ∃ answer,
            (start client (query Operation.listChats)).afterTurns turns = .finished answer)) ∧
    (paging.GoesRound → ∀ turns, paging.CanAsk client →
      (∀ turn ∈ turns, paging.CanAsk turn.client) →
      paging.Answers (start client (query Operation.listChats)) turns →
      (sendingsFrom client (query Operation.listChats) turns).length = turns.length + 1 ∧
        ((start client (query Operation.listChats)).afterTurns turns).result? = none) := by
  constructor
  · intro hround turns hanswers
    obtain ⟨last, hle, hlast⟩ := exists_isLastAt hround
    rw [sendingsFrom, List.length_append]
    rcases paging.start_cases client with ⟨answer, hstart⟩ | hat
    · rw [hstart, Job.sendings_finished]
      exact ⟨Nat.zero_le _, fun _ => ⟨answer, Job.afterTurns_finished answer turns⟩⟩
    · obtain ⟨hsent, hends⟩ := hat.ends (Nat.zero_le last) hlast hanswers
      rw [hat.sending_length]
      exact ⟨by omega, fun hlt => hends (by omega)⟩
  · intro hround turns hclient hasks hanswers
    obtain ⟨first, hfirst⟩ := hclient "" (.inl rfl)
    have hat : paging.IsAt 0 (start client (query Operation.listChats)) :=
      ⟨first, [], Job.start_listing hfirst⟩
    obtain ⟨hsent, hlater⟩ := hat.goes_on (goesRound_iff.mp hround) hasks hanswers
    obtain ⟨request, chats, hwaits⟩ := hlater
    rw [sendingsFrom, List.length_append, hat.sending_length, hsent, hwaits]
    exact ⟨Nat.add_comm _ _, rfl⟩

/-! ## Two tables -/

/-- Where every page can come, the platform can answer for any number of turns. -/
theorem exists_answers (client : Client)
    (hcomes : ∀ token, ∃ delivery, BringsPage delivery (paging.page token))
    (job : Job (Answer .listChats)) (count : Nat) :
    ∃ turns, turns.length = count ∧ (∀ turn ∈ turns, turn.client = client) ∧
      paging.Answers job turns := by
  induction count generalizing job with
  | zero => exact ⟨[], rfl, by simp, trivial⟩
  | succ count ih =>
    -- a job that waits for no page is content with any answer
    obtain ⟨delivery, hbrings⟩ : ∃ delivery, ∀ sending, job.sending? = some sending →
        BringsPage delivery (paging.page sending.listing.token) := by
      cases hsending : job.sending? with
      | none => exact ⟨.refused, fun _ hsome => nomatch hsome⟩
      | some sending =>
        obtain ⟨delivery, hbrings⟩ := hcomes sending.listing.token
        refine ⟨delivery, ?_⟩
        rintro _ ⟨⟩
        exact hbrings
    obtain ⟨turns, hlength, hclients, hanswers⟩ := ih (job.resume client delivery)
    refine ⟨⟨client, delivery⟩ :: turns, by rw [List.length_cons, hlength], ?_, hbrings, hanswers⟩
    intro turn hturn
    rcases List.mem_cons.mp hturn with rfl | hlater
    · rfl
    · exact hclients turn hlater

/-- A table of three tokens, each of which has one of two pages. -/
def twoPages (isSecond : String → Bool) : Paging where
  page token := if isSecond token then listedPage "b" "q" else listedPage "a" "p"
  tokens := ["p", "q"]
  closed := by
    intro token _ _
    cases isSecond token with
    | true => exact List.mem_cons_of_mem _ List.mem_cons_self
    | false => exact List.mem_cons_self

/-- Every page but the first is the second page, which repeats its own token when it is asked for
under it. -/
def straight : Paging := twoPages fun token => token != ""

/-- The page after the second one is the first page again, so the walk goes round two pages. -/
def roundabout : Paging := twoPages fun token => token == "p"

theorem twoPages_comes (isSecond : String → Bool) (token : String) :
    ∃ delivery, BringsPage delivery ((twoPages isSecond).page token) := by
  change ∃ delivery, BringsPage delivery
    (if isSecond token then listedPage "b" "q" else listedPage "a" "p")
  cases isSecond token with
  | true => exact ⟨listedAnswer "b" "q", bringsPage_second⟩
  | false => exact ⟨listedAnswer "a" "p", bringsPage_first⟩

/-- The client can ask for every page of such a table. -/
theorem twoPages_canAsk (isSecond : String → Bool) :
    (twoPages isSecond).CanAsk (listingClient "t-1") := by
  have hasks {token target : String}
      (hview : ((listingClient "t-1").request .listChats ⟨[], token⟩).toOption.map
        (·.url.target) = some target) :
      ∃ request, (listingClient "t-1").AsksForPage token request := by
    obtain ⟨request, hasks, -⟩ := Client.exists_asksForPage _ _ hview
    exact ⟨request, hasks⟩
  rintro token (rfl | hmem)
  · exact hasks (by decide +kernel : _ = some "/chat/v4/list?page_size=200")
  · rcases List.mem_pair.mp hmem with rfl | rfl
    · exact hasks (by decide +kernel : _ = some "/chat/v4/list?page_size=200&page_token=p")
    · exact hasks (by decide +kernel : _ = some "/chat/v4/list?page_size=200&page_token=q")

/-- The client is answered from such a table for any number of turns. -/
theorem twoPages_turns (isSecond : String → Bool) (count : Nat) :
    ∃ turns, turns.length = count ∧ (∀ turn ∈ turns, turn.client = listingClient "t-1") ∧
      (∀ turn ∈ turns, (twoPages isSecond).CanAsk turn.client) ∧
      (twoPages isSecond).Answers
        (start (listingClient "t-1") (query Operation.listChats)) turns := by
  obtain ⟨turns, hlength, hclients, hanswers⟩ :=
    exists_answers (listingClient "t-1") (twoPages_comes isSecond) _ count
  refine ⟨turns, hlength, hclients, ?_, hanswers⟩
  intro turn hturn
  rw [hclients turn hturn]
  exact twoPages_canAsk isSecond

theorem straight_not_goesRound : ¬ straight.GoesRound := by
  rw [goesRound_iff]
  intro hleads
  exact hleads 2 (by decide)

theorem roundabout_goesRound : roundabout.GoesRound :=
  ⟨1, 3, by decide, by decide, by decide⟩

/-- Three answers end the listing on the straight walk, and leave it waiting on the roundabout. -/
theorem listing_of_paging_three :
    (∃ turns, turns.length = 3 ∧
      (sendingsFrom (listingClient "t-1") (query Operation.listChats) turns).length ≤ 3 ∧
      ∃ answer, (start (listingClient "t-1") (query Operation.listChats)).afterTurns turns =
        .finished answer) ∧
    ∃ turns, turns.length = 3 ∧
      (sendingsFrom (listingClient "t-1") (query Operation.listChats) turns).length = 4 ∧
      ((start (listingClient "t-1") (query Operation.listChats)).afterTurns turns).result? =
        none := by
  constructor
  · obtain ⟨turns, hlength, -, -, hanswers⟩ := twoPages_turns (fun token => token != "") 3
    obtain ⟨hsent, hends⟩ := (listing_of_paging straight (listingClient "t-1")).1
      straight_not_goesRound turns hanswers
    refine ⟨turns, hlength, hsent, hends ?_⟩
    rw [hlength]
    exact Nat.lt_succ_self 2
  · obtain ⟨turns, hlength, -, hasks, hanswers⟩ := twoPages_turns (fun token => token == "p") 3
    obtain ⟨hsent, hwaits⟩ := (listing_of_paging roundabout (listingClient "t-1")).2
      roundabout_goesRound turns (twoPages_canAsk _) hasks hanswers
    rw [hlength] at hsent
    exact ⟨turns, hlength, hsent, hwaits⟩

/-- On the roundabout no number of answers is enough to end the listing. -/
theorem roundabout_never_ends :
    ¬ ∃ count, ∀ turns,
      roundabout.Answers (start (listingClient "t-1") (query Operation.listChats)) turns →
      (∀ turn ∈ turns, turn.client = listingClient "t-1") → count ≤ turns.length →
      ∃ answer, (start (listingClient "t-1") (query Operation.listChats)).afterTurns turns =
        .finished answer := by
  rintro ⟨count, hcount⟩
  obtain ⟨turns, hlength, hclients, hasks, hanswers⟩ :=
    twoPages_turns (fun token => token == "p") count
  obtain ⟨first, hfirst⟩ := twoPages_canAsk (fun token => token == "p") "" (.inl rfl)
  have hat : roundabout.IsAt 0 (start (listingClient "t-1") (query Operation.listChats)) :=
    ⟨first, [], Job.start_listing hfirst⟩
  obtain ⟨-, request, chats, hwaits⟩ :=
    hat.goes_on (goesRound_iff.mp roundabout_goesRound) hasks hanswers
  obtain ⟨answer, hfinished⟩ := hcount turns hanswers hclients (Nat.le_of_eq hlength.symm)
  rw [hwaits] at hfinished
  cases hfinished

end Paging

end ChatSteward.Platform
