import ChatSteward.Platform.Agenda
import ChatSteward.Proofs.Text.Utf8

/-!
# Accepted answers

Of all that can become of a request, only an answer accepts it whose status says success and
whose body came in whole. What such a body says is still to be seen: the exchange of the
credentials ends with a token only if the body is a reply that tells of no rejection and has a
token in it.

## Main definitions

* `Accepted` — an answer that accepts its request, with the text of its body
* `Grants` — an answer that grants a token

## Main results

* `readBody_eq_ok_iff` — the bodies to work with are those of accepted requests
* `Client.acceptToken_cases` — a token is granted and stored, or nothing changes
-/

namespace ChatSteward.Platform

/-- Whether an answer came that accepts its request, with a text as its body. -/
def Accepted (delivery : Http.Delivery) (body : String) : Prop :=
  ∃ response, delivery = .answered response ∧ response.status.isSuccess = true ∧
    response.complete = true ∧ Text.decodeLossy response.body = body

/-- The bodies to work with are those of accepted requests. -/
@[simp] theorem readBody_eq_ok_iff {url : Http.Url} {delivery : Http.Delivery} {body : String} :
    readBody url delivery = .ok body ↔ Accepted delivery body := by
  cases delivery with
  | refused | dropped | timedOut => simp [readBody, Accepted]
  | answered response =>
    simp only [readBody, readResponse, Accepted, Http.Delivery.answered.injEq, exists_eq_left']
    by_cases hrate : response.status = .tooManyRequests
    · -- that requests came too fast is no success, so both sides are false
      have hfails : response.status.isSuccess = false := by
        rw [hrate]
        decide
      rw [if_pos hrate, hfails]
      simp
    · cases response.complete <;> cases response.status.isSuccess <;> simp [hrate]

/-- A body that came in whole is worked with as the text that was sent. -/
theorem accepted_of_text {response : Http.Response} {body : String}
    (hstatus : response.status.isSuccess = true) (hcomplete : response.complete = true)
    (hbody : response.body = Text.encodeUtf8 body) : Accepted (.answered response) body :=
  ⟨response, rfl, hstatus, hcomplete, by rw [hbody, Text.decodeLossy_encodeUtf8]⟩

/-! ## Tokens -/

/-- Whether an answer grants a token for some seconds: it accepts the request, and its body is a
reply without a rejection and with a token that is not empty. -/
def Grants (delivery : Http.Delivery) (token : String) (expire : Nat) : Prop :=
  ∃ body text, Accepted delivery body ∧
    Client.TokenReply.record.decoder.decode (Text.encodeUtf8 body) = .ok ⟨0, text, token, expire⟩ ∧
    token ≠ ""

namespace Client

theorem readToken_eq_ok_iff {body token : String} {expire : Nat} :
    readToken body = .ok (token, expire) ↔
      (∃ text, TokenReply.record.decoder.decode (Text.encodeUtf8 body) =
        .ok ⟨0, text, token, expire⟩) ∧ token ≠ "" := by
  rw [readToken]
  cases TokenReply.record.decoder.decode (Text.encodeUtf8 body) with
  | error fault => simp
  | ok reply =>
    obtain ⟨code, text, held, seconds⟩ := reply
    simp only [Except.ok.injEq, TokenReply.mk.injEq]
    by_cases hcode : code = 0
    · by_cases hempty : held = ""
      · have hno (text' : String) :
            ¬ ((code = 0 ∧ text = text' ∧ held = token ∧ seconds = expire) ∧ token ≠ "") := by
          rintro ⟨⟨-, -, hheld, -⟩, hne⟩
          exact hne (hheld ▸ hempty)
        simpa [hcode, hempty] using hno
      · simp only [hcode, ne_eq, not_true, if_false, String.isEmpty_iff, hempty,
          Except.ok.injEq, Prod.mk.injEq, true_and]
        constructor
        · rintro ⟨rfl, rfl⟩
          exact ⟨⟨text, rfl, rfl, rfl⟩, hempty⟩
        · rintro ⟨⟨_, _, hheld, hseconds⟩, _⟩
          exact ⟨hheld, hseconds⟩
    · simp [hcode]

/-- A refresh ends with a token exactly if its answer grants one. -/
@[simp] theorem readToken_of_body_iff {url : Http.Url} {delivery : Http.Delivery} {token : String}
    {expire : Nat} :
    (readBody url delivery).bind readToken = .ok (token, expire) ↔
      Grants delivery token expire := by
  constructor
  · intro hread
    cases hbody : readBody url delivery with
    | error failure =>
      rw [hbody] at hread
      cases hread
    | ok body =>
      rw [hbody] at hread
      obtain ⟨⟨text, hreply⟩, hne⟩ := readToken_eq_ok_iff.mp hread
      exact ⟨body, text, readBody_eq_ok_iff.mp hbody, hreply, hne⟩
  · rintro ⟨body, text, haccepted, hreply, hne⟩
    rw [readBody_eq_ok_iff.mpr haccepted]
    exact readToken_eq_ok_iff.mpr ⟨⟨text, hreply⟩, hne⟩

/-- An answer that grants a token ends the refresh with it. -/
theorem acceptToken_of_grants {delivery : Http.Delivery} {token : String} {expire : Nat}
    (hgranted : Grants delivery token expire) (client : Client) (request : Http.Request) :
    client.acceptToken request delivery = ({ client with token := some token }, .ok expire) := by
  rw [acceptToken, readToken_of_body_iff.mpr hgranted]

/-- A token is granted and stored, or the refresh fails and nothing changes. -/
theorem acceptToken_cases (client : Client) (request : Http.Request) (delivery : Http.Delivery) :
    (∃ token expire, Grants delivery token expire ∧
        client.acceptToken request delivery = ({ client with token := some token }, .ok expire)) ∨
      (∀ token expire, ¬ Grants delivery token expire) ∧
        ∃ failure, client.acceptToken request delivery = (client, .error failure) := by
  cases hread : (readBody request.url delivery).bind readToken with
  | ok granted =>
    obtain ⟨token, expire⟩ := granted
    have hgranted := readToken_of_body_iff.mp hread
    exact .inl ⟨token, expire, hgranted, acceptToken_of_grants hgranted client request⟩
  | error failure =>
    refine .inr ⟨?_, failure, ?_⟩
    · intro token expire hgranted
      rw [readToken_of_body_iff.mpr hgranted] at hread
      cases hread
    · rw [acceptToken, hread]

end Client

end ChatSteward.Platform
