import ChatSteward.Proofs.Json.Written
import ChatSteward.Proofs.Platform.Content
import ChatSteward.Proofs.Platform.Envelope

/-!
# Rejections

The platform rejects a request with a code and a text in an object, under any status. If the
status says no success, the object is read for these two alone, and the rejection is the failure
whatever else the object holds.

If the status says success, the object is read as an envelope around data of the operation, before
anybody looks at the code. Data that is missing, null, or of the operation's own type does not
stand in the way, and an operation that returns nothing takes any. Other data does: then the
failure is the fault of the text, and the rejection in it is lost.

## Main definitions

* `Operation.FailsOn` — the failure with which an operation meets an answer
* `HoldsRejection` — a body that is an object with a rejection

## Main results

* `Operation.failsOn_of_rejection` — the failure for a body that holds a rejection
* `rejection_hidden_by_data` — empty data that hides the rejection
-/

namespace ChatSteward.Platform

open Json

/-- Whether an operation that is under way fails with a failure when an answer comes, whatever the
operation is asked for. -/
def Operation.FailsOn (operation : Operation) (response : Http.Response) (failure : Failure) :
    Prop :=
  ∀ (R : Type) (client : Client) (request : Http.Request) (listing : Listing)
    (next : Answer operation → Consultation R),
    Job.resume client (.answered response) (.waiting request operation listing next) =
      Job.start client (next (.error failure))

/-- Whether an operation returns nothing. -/
def Operation.ReturnsNothing : Operation → Prop
  | .addUsers .. | .removeUsers .. | .destroyChat .. => True
  | _ => False

/-- Whether a body is the text of an object without repeated members that holds a rejection. -/
structure HoldsRejection (body : List UInt8) (members : List (String × List UInt8))
    (rejection : Rejection) : Prop where
  isText : ∃ text, body = Text.encodeUtf8 text
  isObject : ∃ object, IsObject object members ∧ Padded object body
  nodup : (members.map (·.1)).Nodup
  code : ("code", Text.encodeUtf8 (toString rejection.code)) ∈ members
  text : ∃ content, ("msg", Byte.quote :: content) ∈ members ∧
    Spells content rejection.text.toList
  low : -(greatestSigned : Int) - 1 ≤ rejection.code
  high : rejection.code ≤ greatestSigned
  notZero : rejection.code ≠ 0

/-! ## Parts -/

variable {body : List UInt8} {members : List (String × List UInt8)} {rejection : Rejection}

theorem HoldsRejection.code_part (hholds : HoldsRejection body members rejection) (depth : Nat) :
    IsPart (Decoder.int64.reader depth) members "code" 0 rejection.code :=
  .inr ⟨_, hholds.code, Decoder.reads_int64 hholds.low hholds.high depth⟩

theorem HoldsRejection.text_part (hholds : HoldsRejection body members rejection) (depth : Nat) :
    IsPart (Decoder.text.reader depth) members "msg" "" rejection.text := by
  obtain ⟨content, hmem, hspells⟩ := hholds.text
  exact .inr ⟨_, hmem, Decoder.reads_text hspells depth⟩

/-- Data that is missing, null or read is a part of an envelope. -/
theorem exists_data_part {α : Type} {data : Decoder α} {depth : Nat}
    (hvalues : ∀ member ∈ members, IsValue member.2)
    (hdata : ∀ value, ("data", value) ∈ members →
      value = nullText ∨ ∃ content, Reads (data.reader depth) value content) :
    ∃ content, IsPart (data.optional.reader depth) members "data" none content := by
  by_cases hmem : "data" ∈ members.map (·.1)
  · obtain ⟨⟨name, value⟩, hmem, rfl⟩ := List.mem_map.mp hmem
    by_cases hnull : value = nullText
    · exact ⟨none, .inr ⟨value, hmem, hnull ▸ Decoder.reads_optional_null data depth⟩⟩
    · obtain heq | ⟨content, hreads⟩ := hdata value hmem
      · exact absurd heq hnull
      · exact ⟨some content, .inr ⟨value, hmem,
          Decoder.reads_optional (hvalues _ hmem) hnull hreads⟩⟩
  · exact ⟨none, .inl ⟨hmem, rfl⟩⟩

/-- A body that holds a rejection is an envelope with it if the data does not stand in the way. -/
theorem HoldsRejection.decode {α : Type} (data : Decoder α)
    (hholds : HoldsRejection body members rejection)
    (hdata : ∀ value, ("data", value) ∈ members → value = nullText ∨
      ∃ content, Reads (data.reader (Decoder.greatestDepth - 1)) value content) :
    ∃ content, (Reply.record data).decoder.decode body =
      .ok ⟨rejection.code, rejection.text, content⟩ := by
  obtain ⟨object, hobject, hpadded⟩ := hholds.isObject
  obtain ⟨content, hcontent⟩ := exists_data_part (fun _ => hobject.isValue_of_mem) hdata
  exact ⟨content, Reply.decode_of_isEnvelope hobject hpadded hholds.nodup
    ⟨hholds.code_part _, hholds.text_part _, hcontent⟩⟩

/-- Whatever the data, a body that is decoded as an envelope has the rejection that it holds. -/
theorem HoldsRejection.eq_of_decode {operation : Operation}
    {reply : Reply operation.Content} (hholds : HoldsRejection body members rejection)
    (hdecode : (Reply.record operation.data).decoder.decode body = .ok reply) :
    reply.code = rejection.code ∧ reply.text = rejection.text := by
  obtain ⟨object, hobject, hpadded⟩ := hholds.isObject
  exact ⟨Reply.code_of_decode operation.isExact_data hobject hpadded hholds.nodup
      (hholds.code_part _) hdecode,
    Reply.text_of_decode operation.isExact_data hobject hpadded hholds.nodup
      (hholds.text_part _) hdecode⟩

/-- Without a look at the data the rejection is found. -/
theorem HoldsRejection.rejection?_eq {text : String}
    (hholds : HoldsRejection (Text.encodeUtf8 text) members rejection) :
    rejection? text = some rejection := by
  obtain ⟨object, hobject, -⟩ := hholds.isObject
  obtain ⟨content, hdecode⟩ := hholds.decode Decoder.ignored fun value hmem =>
    .inr ⟨(), Decoder.reads_ignored (hobject.isValue_of_mem hmem) _⟩
  rw [rejection?, hdecode]
  simp only [Reply.rejection?, if_neg hholds.notZero]

/-- An object that is written with a rejection and other members holds it. -/
theorem holdsRejection_written (rejection : Rejection) (others : List (String × Value))
    {depth : Nat} (hlow : -(greatestSigned : Int) - 1 ≤ rejection.code)
    (hhigh : rejection.code ≤ greatestSigned) (hne : rejection.code ≠ 0)
    (hwritable : ∀ member ∈ others, member.2.IsWritable depth)
    (hnodup : ("code" :: "msg" :: others.map (·.1)).Nodup) :
    HoldsRejection
      (Text.encodeUtf8
        (Value.object
          (("code", .number (.integer rejection.code)) :: ("msg", .text rejection.text) ::
            others)).written)
      (("code", Text.encodeUtf8 (toString rejection.code)) ::
        ("msg", Byte.quote :: contentOf rejection.text) ::
          others.map fun member => (member.1, member.2.bytes)) rejection where
  isText := ⟨_, rfl⟩
  isObject := by
    have hbounds : greatestSigned ≤ greatestUnsigned := by decide
    have hvalues : ∀ member ∈ ("code", Value.number (.integer rejection.code)) ::
        ("msg", .text rejection.text) :: others, IsValue member.2.bytes := by
      intro member hmem
      rcases List.mem_cons.mp hmem with rfl | hmem
      · exact (Value.IsWritable.integer 0 hlow (by omega)).isValue
      · rcases List.mem_cons.mp hmem with rfl | hmem
        · exact (Value.IsWritable.text 0 _).isValue
        · exact (hwritable member hmem).isValue
    have hobject := Value.isObject_bytes hvalues
    rw [List.map_cons, List.map_cons, Value.bytes_integer, Value.bytes_text] at hobject
    refine ⟨_, hobject, ?_⟩
    rw [Value.encodeUtf8_written]
    exact padded_self _
  nodup := by simpa [List.map_map, Function.comp_def] using hnodup
  code := List.mem_cons_self
  text := ⟨_, List.mem_cons_of_mem _ List.mem_cons_self, spells_contentOf _⟩
  low := hlow
  high := hhigh
  notZero := hne

/-! ## Failures -/

namespace Operation

variable {operation : Operation} {response : Http.Response}

theorem failsOn_of_readResponse {failure : Failure}
    (hread : ∀ url, readResponse url response = .error failure) :
    operation.FailsOn response failure := by
  intro R client request listing next
  simp only [Job.resume, readBody, hread]
  rfl

theorem failsOn_of_receive {failure : Failure} {text : String}
    (hread : ∀ url, readResponse url response = .ok text)
    (hreceive : ∀ listing, operation.receive listing text = .error failure) :
    operation.FailsOn response failure := by
  intro R client request listing next
  simp only [Job.resume, readBody, hread]
  simp only [Except.bind, hreceive]

/-- The failure for a body that holds a rejection. If the status says no success, it is the
rejection. If it says success, it is the rejection exactly if the data lets the body be read, as
it does when it is missing, null, or of the operation's own type, and always for an operation
that returns nothing; else it is the fault of the text. -/
theorem failsOn_of_rejection (operation : Operation)
    (hrate : response.status ≠ .tooManyRequests) (hcomplete : response.complete = true)
    (hholds : HoldsRejection response.body members rejection) :
    (response.status.isSuccess = false → operation.FailsOn response rejection.failure) ∧
    (∀ reply, (Reply.record operation.data).decoder.decode response.body = .ok reply →
      operation.FailsOn response rejection.failure) ∧
    (response.status.isSuccess = true →
      ∀ fault, (Reply.record operation.data).decoder.decode response.body = .error fault →
        operation.FailsOn response (.json fault.message)) ∧
    (operation.ReturnsNothing ∨
        (∀ value, ("data", value) ∈ members → value = nullText ∨ ∃ content,
          Reads (operation.data.reader (Decoder.greatestDepth - 1)) value content) →
      operation.FailsOn response rejection.failure) ∧
    rejection.failure =
      if rejection.code ∈ [99991661, 99991663, 99991668] then
        .authentication (toString rejection.code ++ ": " ++ rejection.text)
      else .rejected (toString rejection.code ++ ": " ++ rejection.text) := by
  obtain ⟨text, hbody⟩ := hholds.isText
  have hlossy : Text.decodeLossy response.body = text := by
    rw [hbody, Text.decodeLossy_encodeUtf8]
  have hrefused (hstatus : response.status.isSuccess = false) :
      operation.FailsOn response rejection.failure := by
    apply failsOn_of_readResponse
    intro url
    rw [hbody] at hholds
    simp [readResponse, hrate, hcomplete, hstatus, hlossy, failureOf, hholds.rejection?_eq]
  have haccepted (hstatus : response.status.isSuccess = true) (url : Http.Url) :
      readResponse url response = .ok text := by
    simp [readResponse, hrate, hcomplete, hstatus, hlossy]
  -- once the envelope is read, the code in it decides, under either kind of status
  have hdecoded (reply : Reply operation.Content)
      (hdecode : (Reply.record operation.data).decoder.decode response.body = .ok reply) :
      operation.FailsOn response rejection.failure := by
    cases hstatus : response.status.isSuccess with
    | false => exact hrefused hstatus
    | true =>
      apply failsOn_of_receive (haccepted hstatus)
      obtain ⟨hcode, htext⟩ := hholds.eq_of_decode hdecode
      rw [hbody] at hdecode
      have hne : reply.code ≠ 0 := by
        rw [hcode]
        exact hholds.notZero
      intro listing
      rw [receive_of_rejection hdecode hne, hcode, htext]
  refine ⟨hrefused, hdecoded, ?_, ?_, ?_⟩
  · intro hstatus fault hdecode
    rw [hbody] at hdecode
    exact failsOn_of_receive (haccepted hstatus) (receive_of_fault hdecode)
  · intro hdata
    obtain ⟨object, hobject, -⟩ := hholds.isObject
    obtain ⟨content, hdecode⟩ := hholds.decode operation.data (by
      rcases hdata with hnothing | hdata
      · -- an operation that returns nothing ignores its data
        intro value hmem
        cases operation with
        | addUsers | removeUsers | destroyChat =>
          exact .inr ⟨(), Decoder.reads_ignored (hobject.isValue_of_mem hmem) _⟩
        | _ => cases hnothing
      · exact hdata)
    exact hdecoded _ hdecode
  · simp [Rejection.failure, Rejection.isAboutToken, Rejection.tokenCodes, Rejection.detail]

/-- An operation has one failure for an answer. -/
theorem FailsOn.unique {failure other : Failure} (hfails : operation.FailsOn response failure)
    (hother : operation.FailsOn response other) : other = failure := by
  -- the consultation that results in the failure tells both apart
  let next : Answer operation → Consultation Failure
    | .error failure => .done failure
    | .ok _ => .done (.internal "")
  have hresult (failure : Failure) (hfails : operation.FailsOn response failure) :=
    hfails Failure ⟨⟨"", "", "", []⟩, none⟩ ⟨.get, ⟨"", "", none, "", none, none⟩, none, none⟩
      .start next
  exact Job.finished.inj ((hresult other hother).symm.trans (hresult failure hfails))

end Operation

/-! ## Empty data -/

/-- A rejection with empty data. -/
def textWithEmptyData : String :=
  (Value.object
    [("code", .number (.integer 90003)), ("msg", .text "no"), ("data", .object [])]).written

/-- An answer that rejects a request and holds empty data. -/
def rejectionWithEmptyData (status : Http.Status) : Http.Response :=
  ⟨status, [], Text.encodeUtf8 textWithEmptyData, true⟩

theorem holdsRejection_withEmptyData (status : Http.Status) :
    ∃ members, HoldsRejection (rejectionWithEmptyData status).body members ⟨90003, "no"⟩ := by
  have hwritable : ∀ member ∈ [("data", Value.object [])], member.2.IsWritable 1 := by
    intro member hmem
    rw [List.mem_singleton.mp hmem]
    exact .object (fun _ hmem => absurd hmem List.not_mem_nil)
  have hlow : -(greatestSigned : Int) - 1 ≤ 90003 := by decide
  have hhigh : (90003 : Int) ≤ greatestSigned := by decide
  have hnodup : ["code", "msg", "data"].Nodup := by decide
  exact ⟨_, holdsRejection_written ⟨90003, "no"⟩ [("data", .object [])] hlow hhigh (by decide)
    hwritable hnodup⟩

/-- Under a status without success the empty data does not matter. -/
theorem createChat_failsOn_rejection :
    (Operation.createChat "room" "ou_1").FailsOn (rejectionWithEmptyData ⟨400⟩)
      (.rejected "90003: no") := by
  obtain ⟨members, hholds⟩ := holdsRejection_withEmptyData ⟨400⟩
  exact ((Operation.createChat "room" "ou_1").failsOn_of_rejection (by decide) rfl hholds).1 rfl

/-- Under a status of success the empty data hides the rejection from an operation that returns
something: what is told is the fault of the text. -/
theorem rejection_hidden_by_data :
    (rejectionWithEmptyData .ok).status ≠ .tooManyRequests ∧
      (rejectionWithEmptyData .ok).complete = true ∧
      (∃ members, HoldsRejection (rejectionWithEmptyData .ok).body members ⟨90003, "no"⟩) ∧
      ¬ (Operation.createChat "room" "ou_1").FailsOn (rejectionWithEmptyData .ok)
        (Rejection.mk 90003 "no").failure := by
  refine ⟨by decide, rfl, holdsRejection_withEmptyData .ok, ?_⟩
  intro hfails
  have hfault : ((Reply.record (Operation.createChat "room" "ou_1").data).decoder.decode
      (Text.encodeUtf8 textWithEmptyData)).isOk = false := by
    decide +kernel
  cases hdecode : (Reply.record (Operation.createChat "room" "ou_1").data).decoder.decode
      (Text.encodeUtf8 textWithEmptyData) with
  | ok reply =>
    rw [hdecode] at hfault
    cases hfault
  | error fault =>
    have hread (url : Http.Url) : readResponse url (rejectionWithEmptyData .ok) =
        .ok textWithEmptyData :=
      readBody_eq_ok_iff.mpr (accepted_of_text rfl rfl rfl)
    have hreceive (listing : Listing) :
        (Operation.createChat "room" "ou_1").receive listing textWithEmptyData =
          .error (.ofFault fault) :=
      Operation.receive_of_fault hdecode listing
    cases hfails.unique (Operation.failsOn_of_receive hread hreceive)

end ChatSteward.Platform
