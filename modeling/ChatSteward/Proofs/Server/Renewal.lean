import ChatSteward.Proofs.Platform.Acceptance
import ChatSteward.Server.Renewal

/-!
# Tokens that do not lapse

A token is renewed before it lapses, even if some attempts fail. The margin of the schedule has to
leave room for them: for the time that the attempt took which was granted the token, for that of
the attempt which is granted the next one, and for each attempt that fails in between and the pause
after it.

The attempts that fail leave the client with the token that it holds. They end one after the other,
each no later than a timeout and a pause after the one before, which is the invariant of the run;
the rest is arithmetic.

## Main definitions

* `Schedule.Bridges` — a token is replaced while it is valid, whatever fails in between

## Main results

* `Schedule.finish_le_of_failed` — when an attempt ends before which others fail
* `Schedule.bridges_of_margin` — a margin that is wide enough bridges the failures
* `token_replaced_while_valid` — any schedule, and the usual one
-/

namespace ChatSteward.Platform

/-! ## One refresh -/

/-- A refresh is granted a token, which the client holds then, or it fails and the client stays as
it is. -/
theorem Client.refresh_cases (client : Client) (delivery : Http.Delivery) :
    (∃ token expire, Grants delivery token expire ∧
        client.refresh delivery = (⟨client.settings, some token⟩, .ok expire)) ∨
      ∃ failure, client.refresh delivery = (client, .error failure) := by
  rw [refresh]
  cases client.tokenRequest with
  | error failure => exact .inr ⟨failure, rfl⟩
  | ok request =>
    rcases client.acceptToken_cases request delivery with hgranted | ⟨-, hfails⟩
    · exact .inl hgranted
    · exact .inr hfails

/-- The settings stay as they are. -/
@[simp] theorem Client.refresh_settings (client : Client) (delivery : Http.Delivery) :
    (client.refresh delivery).1.settings = client.settings := by
  rcases client.refresh_cases delivery with ⟨token, expire, -, hrefresh⟩ | ⟨failure, hrefresh⟩
  · rw [hrefresh]
  · rw [hrefresh]

end ChatSteward.Platform

namespace ChatSteward.Server

open Platform (Client Failure Grants)

/-! ## The loop -/

namespace Schedule

variable {schedule : Schedule} {second : Nat} {shutdown : Option Shutdown}

/-- Without a shutdown one attempt is made after the other, with the client that the refresh of the
one leaves to the next. -/
theorem renew_cons {client left : Client} {delivery : Http.Delivery} {result : Except Failure Nat}
    (hrefresh : client.refresh delivery = (left, result)) (now duration : Nat)
    (trials : List Trial) :
    schedule.renew second none now client (⟨duration, delivery⟩ :: trials) =
      ⟨now, now + duration, delivery, result, left⟩ ::
        schedule.renew second none (now + duration + schedule.pauseIn second result) left
          trials := by
  simp only [renew, Renewal.make, hrefresh, Option.any_none, Bool.false_eq_true, if_false]

/-- The first attempt is that of the client, and the others are made after the pause. -/
theorem eq_of_renew_cons {now : Nat} {client : Client} {trials : List Trial} {first : Renewal}
    {rest : List Renewal}
    (hmade : schedule.renew second shutdown now client trials = first :: rest) :
    ∃ trial more, trials = trial :: more ∧ first = Renewal.make client now trial ∧
      (rest = [] ∨ rest = schedule.renew second shutdown
        (first.finish + schedule.pauseIn second first.result) first.client more) := by
  cases trials with
  | nil => cases hmade
  | cons trial more =>
    refine ⟨trial, more, rfl, ?_⟩
    simp only [renew] at hmade
    split at hmade
    · obtain ⟨rfl, rfl⟩ := List.cons.inj hmade
      exact ⟨rfl, .inl rfl⟩
    · obtain ⟨rfl, rfl⟩ := List.cons.inj hmade
      exact ⟨rfl, .inr rfl⟩

/-- What the loop does from some attempt on is what it does from then on, out of the trials that
are left. -/
theorem exists_renew_of_append {now : Nat} {client : Client} {trials : List Trial}
    {earlier later : List Renewal} {first : Renewal}
    (hmade : schedule.renew second shutdown now client trials = earlier ++ first :: later) :
    ∃ moment holder left, (∀ trial ∈ left, trial ∈ trials) ∧ holder.settings = client.settings ∧
      schedule.renew second shutdown moment holder left = first :: later := by
  induction earlier generalizing now client trials with
  | nil => exact ⟨now, client, trials, fun _ hmem => hmem, rfl, hmade⟩
  | cons renewal earlier ih =>
    obtain ⟨trial, more, rfl, rfl, hnone | hrest⟩ := eq_of_renew_cons hmade
    · simp at hnone
    · obtain ⟨moment, holder, left, hleft, hsettings, hlater⟩ := ih hrest.symm
      exact ⟨moment, holder, left, fun trial hmem => List.mem_cons_of_mem _ (hleft trial hmem),
        hsettings.trans (client.refresh_settings trial.delivery), hlater⟩

/-! ## Failures in turn -/

/-- Attempts that fail leave the client as it is, and each of them puts off the next one by no more
than a timeout and a pause. -/
theorem finish_le_of_failed {timeout now : Nat} {client : Client} {trials : List Trial}
    (hdurations : ∀ trial ∈ trials, trial.duration ≤ timeout) {failed later : List Renewal}
    {next : Renewal}
    (hmade : schedule.renew second shutdown now client trials = failed ++ next :: later)
    (hfailed : ∀ renewal ∈ failed, ∃ failure, renewal.result = .error failure) :
    next.finish ≤ now + failed.length * (timeout + schedule.retryDelay) + timeout ∧
      (∀ renewal ∈ failed, renewal.client = client) ∧
      ∃ start trial, next = Renewal.make client start trial := by
  induction failed generalizing now client trials with
  | nil =>
    obtain ⟨trial, more, rfl, rfl, -⟩ := eq_of_renew_cons hmade
    have hduration := hdurations trial List.mem_cons_self
    refine ⟨?_, by simp, now, trial, rfl⟩
    simp only [Renewal.make, List.length_nil]
    omega
  | cons renewal failed ih =>
    obtain ⟨failure, hresult⟩ := hfailed renewal List.mem_cons_self
    obtain ⟨trial, more, rfl, rfl, hnone | hrest⟩ := eq_of_renew_cons hmade
    · simp at hnone
    · -- the attempt failed, so the client is the one before, and the pause the one after failures
      have hstays : (client.refresh trial.delivery).1 = client := by
        rcases client.refresh_cases trial.delivery with ⟨_, _, -, hrefresh⟩ | ⟨_, hrefresh⟩
        · rw [Renewal.make, hrefresh] at hresult
          cases hresult
        · rw [hrefresh]
      have hduration := hdurations trial List.mem_cons_self
      rw [hresult] at hrest
      obtain ⟨hfinish, hclients, hnext⟩ :=
        ih (fun trial hmem => hdurations trial (List.mem_cons_of_mem _ hmem)) hrest.symm
          fun renewal hmem => hfailed renewal (List.mem_cons_of_mem _ hmem)
      simp only [Renewal.make, hstays] at hfinish hclients hnext ⊢
      refine ⟨?_, ?_, hnext⟩
      · rw [List.length_cons, Nat.succ_mul]
        simp only [pauseIn] at hfinish
        omega
      · intro renewal hmem
        rcases List.mem_cons.mp hmem with rfl | hmem
        · rfl
        · exact hclients renewal hmem

/-! ## Failures between two tokens -/

/-- Whether a token that is valid for some seconds is replaced before it lapses, although some
attempts in between may fail, none of which lasts longer than a timeout. In every run, from the
attempt that was granted the token, its validity counting from the start of this attempt, up to the
next one that is granted a token: the client holds the one until it holds the other, and this is no
later than the end of the validity. -/
def Bridges (schedule : Schedule) (second timeout failures valid : Nat) : Prop :=
  ∀ shutdown now client trials, (∀ trial ∈ trials, trial.duration ≤ timeout) →
    ∀ earlier former failed next later validNext,
      schedule.renew second shutdown now client trials =
        earlier ++ former :: (failed ++ next :: later) →
      former.result = .ok valid →
      (∀ renewal ∈ failed, ∃ failure, renewal.result = .error failure) →
      failed.length ≤ failures →
      next.result = .ok validNext →
      next.finish ≤ former.start + valid * second ∧
        ∃ token newer, Grants former.delivery token valid ∧ Grants next.delivery newer validNext ∧
          (∀ renewal ∈ former :: failed, renewal.client = ⟨client.settings, some token⟩) ∧
          next.client = ⟨client.settings, some newer⟩

/-- A successful attempt is granted the token that its client holds afterwards. -/
theorem grants_of_make {client : Client} {start valid : Nat} {trial : Trial}
    (hresult : (Renewal.make client start trial).result = .ok valid) :
    ∃ token, Grants trial.delivery token valid ∧
      (Renewal.make client start trial).client = ⟨client.settings, some token⟩ := by
  simp only [Renewal.make] at hresult ⊢
  rcases client.refresh_cases trial.delivery with
    ⟨token, expire, hgranted, hrefresh⟩ | ⟨failure, hrefresh⟩
  · rw [hrefresh] at hresult ⊢
    obtain rfl := Except.ok.inj hresult
    exact ⟨token, hgranted, rfl⟩
  · rw [hrefresh] at hresult
    cases hresult

/-- A token is replaced in time if it outlasts the margin and the least pause, and the margin has
room for two attempts, and for each failure with the pause after it. -/
theorem bridges_of_margin {timeout failures valid : Nat}
    (hvalid : schedule.margin + schedule.leastDelay ≤ valid * second)
    (hmargin : 2 * timeout + failures * (timeout + schedule.retryDelay) ≤ schedule.margin) :
    schedule.Bridges second timeout failures valid := by
  intro shutdown now client trials hdurations earlier former failed next later validNext hmade
    hformer hfailed hfew hnext
  obtain ⟨moment, holder, left, hleft, hsettings, hrun⟩ := exists_renew_of_append hmade
  obtain ⟨trial, more, rfl, rfl, hnone | hrest⟩ := eq_of_renew_cons hrun
  · simp at hnone
  have hduration : trial.duration ≤ timeout := hdurations trial (hleft trial List.mem_cons_self)
  obtain ⟨token, hgranted, hholds⟩ := grants_of_make hformer
  -- the next attempt starts the margin before the token lapses, but for the time of this one
  rw [hformer] at hrest
  obtain ⟨hfinish, hclients, start, following, rfl⟩ := finish_le_of_failed
    (fun trial hmem => hdurations trial (hleft trial (List.mem_cons_of_mem _ hmem))) hrest.symm
    hfailed
  obtain ⟨newer, hnewer, hreplaced⟩ := grants_of_make hnext
  refine ⟨?_, token, newer, hgranted, hnewer, ?_, ?_⟩
  · have hroom : failed.length * (timeout + schedule.retryDelay) ≤
        failures * (timeout + schedule.retryDelay) := Nat.mul_le_mul_right _ hfew
    have hpause : schedule.pauseIn second (.ok valid) = valid * second - schedule.margin :=
      Nat.max_eq_left (by omega)
    rw [hpause] at hfinish
    have hstart : (Renewal.make holder moment trial).start = moment := rfl
    have hend : (Renewal.make holder moment trial).finish = moment + trial.duration := rfl
    omega
  · intro renewal hmem
    rw [← hsettings, ← hholds]
    rcases List.mem_cons.mp hmem with rfl | hmem
    · rfl
    · exact hclients renewal hmem
  · rw [hreplaced, hholds, hsettings]

end Schedule

/-! ## Any schedule, and the usual one -/

/-- The pause after a refresh under the usual schedule, for a token that is valid for 65 seconds or
longer: all but a minute of them. -/
theorem Schedule.nextRefreshIn_usual (second : Nat) {valid : Nat} (hleast : 65 ≤ valid) :
    (usualIn second).nextRefreshIn second valid = (valid - 60) * second := by
  have hpause : 5 * second ≤ valid * second - 60 * second := by
    rw [← Nat.sub_mul]
    exact Nat.mul_le_mul_right second (by omega)
  rw [nextRefreshIn, usualIn, Nat.max_eq_left hpause, Nat.sub_mul]

/-- A token does not lapse if the margin of the schedule leaves room for the failures, whatever
the schedule, the unit of time and the run. The usual schedule bridges five failures in turn of
attempts that last five seconds at most, for every number of seconds from 65 on for which a token
can be valid; the pause that it computes then is all but a minute of them, and so never longer than
the greatest number of seconds that can be told. -/
theorem token_replaced_while_valid :
    (∀ (schedule : Schedule) (second timeout failures valid : Nat),
      schedule.margin + schedule.leastDelay ≤ valid * second →
      2 * timeout + failures * (timeout + schedule.retryDelay) ≤ schedule.margin →
      schedule.Bridges second timeout failures valid) ∧
    Schedule.usualIn 1000 = Schedule.usual ∧
    ∀ second valid, 65 ≤ valid → valid < UInt64.size →
      (Schedule.usualIn second).Bridges second (5 * second) 5 valid ∧
        (Schedule.usualIn second).nextRefreshIn second valid = (valid - 60) * second ∧
        (Schedule.usualIn second).nextRefreshIn second valid ≤ (UInt64.size - 1) * second := by
  refine ⟨fun schedule second timeout failures valid => Schedule.bridges_of_margin, rfl, ?_⟩
  intro second valid hleast hgreatest
  have hpause := Schedule.nextRefreshIn_usual second hleast
  refine ⟨Schedule.bridges_of_margin ?_ ?_, hpause, ?_⟩
  · calc 60 * second + 5 * second = 65 * second := by omega
      _ ≤ valid * second := Nat.mul_le_mul_right second hleast
  · show 2 * (5 * second) + 5 * (5 * second + 5 * second) ≤ 60 * second
    omega
  · rw [hpause]
    exact Nat.mul_le_mul_right second (by omega)

/-- An answer that grants a token for some seconds. -/
def grantingAnswer (token : String) (expire : Nat) : Http.Delivery :=
  .answered ⟨.ok, [], Text.encodeUtf8
    ("\x7b\"tenant_access_token\":\"" ++ token ++ "\",\"expire\":" ++ toString expire ++ "\x7d"),
    true⟩

/-- A token for 65 seconds, five attempts that run out of time, and another token. -/
def failingTrials : List Trial :=
  ⟨5000, grantingAnswer "t-1" 65⟩ :: List.replicate 5 ⟨5000, .timedOut⟩ ++
    [⟨5000, grantingAnswer "t-2" 7200⟩]

/-- The client of these attempts with the token that it holds. -/
def holderOf (token : Option String) : Client := ⟨⟨"cli_1", "secret", "http://a", []⟩, token⟩

/-- What comes of an attempt that runs out of time. -/
def noAnswer : Except Failure Nat :=
  .error (.timeout
    "error sending request for url (http://a/auth/v3/tenant_access_token/internal/)")

/-- Five failures in turn are bridged, with no time to spare. -/
theorem token_replaced_at_the_end :
    ∃ former failed next,
      (Schedule.usualIn 1000).renew 1000 none 0 ⟨⟨"cli_1", "secret", "http://a", []⟩, none⟩
        failingTrials = former :: (failed ++ [next]) ∧
      failed.length = 5 ∧ next.finish = former.start + 65 * 1000 ∧
      next.finish ≤ former.start + 65 * 1000 ∧
      ∃ token newer, Grants former.delivery token 65 ∧ Grants next.delivery newer 7200 := by
  have hfirst : (holderOf none).refresh (grantingAnswer "t-1" 65) =
      (holderOf (some "t-1"), .ok 65) := by
    decide +kernel
  have hfailed : (holderOf (some "t-1")).refresh .timedOut = (holderOf (some "t-1"), noAnswer) := by
    decide +kernel
  have hlast : (holderOf (some "t-1")).refresh (grantingAnswer "t-2" 7200) =
      (holderOf (some "t-2"), .ok 7200) := by
    decide +kernel
  have hrun : (Schedule.usualIn 1000).renew 1000 none 0 (holderOf none) failingTrials =
      ⟨0, 5000, grantingAnswer "t-1" 65, .ok 65, holderOf (some "t-1")⟩ ::
        ([10000, 20000, 30000, 40000, 50000].map (fun start =>
            ⟨start, start + 5000, .timedOut, noAnswer, holderOf (some "t-1")⟩) ++
          [⟨60000, 65000, grantingAnswer "t-2" 7200, .ok 7200, holderOf (some "t-2")⟩]) := by
    simp only [failingTrials, List.replicate, List.cons_append, List.nil_append,
      Schedule.renew_cons hfirst, Schedule.renew_cons hfailed, Schedule.renew_cons hlast]
    rfl
  obtain ⟨-, -, husual⟩ := token_replaced_while_valid
  obtain ⟨hbridges, -⟩ := husual 1000 65 (by decide) (by decide)
  obtain ⟨hintime, token, newer, hgranted, hnewer, -⟩ :=
    hbridges none 0 _ failingTrials (by decide) [] _ _ _ [] 7200 hrun rfl
      (List.forall_mem_map.mpr fun _ _ => ⟨_, rfl⟩) (by decide) rfl
  exact ⟨_, _, _, hrun, rfl, rfl, hintime, token, newer, hgranted, hnewer⟩

end ChatSteward.Server
