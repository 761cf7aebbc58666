import ChatSteward.Proofs.Platform.Isolation

/-!
# Agendas as boards

Every run of an agenda is a run of a board, on which a task sends each request as soon as it can:
the same is done, and the same consultations begin. So what holds of all runs of boards holds of
those of agendas, and of servers.

## Main definitions

* `Task.ofJob`, `Board.ofAgenda` — jobs as tasks, and an agenda as a board

## Main results

* `Board.exists_sends` — a task sends until it is the job that it settles to
* `Board.exists_moves_of_step` — an occurrence of an agenda as moves of a board
* `Board.exists_moves_of_run` — a run of an agenda as one of a board
-/

namespace ChatSteward.Platform

variable {R : Type}

/-- A job as a task that is yet to send nothing. -/
def Task.ofJob : Job R → Task R
  | .finished result => .finished result
  | .waiting request operation listing next => .waiting request operation listing next

namespace Board

/-- An agenda as a board. -/
def ofAgenda (agenda : Agenda R) : Board R :=
  ⟨agenda.client, agenda.refresh, agenda.jobs.map Task.ofJob⟩

/-- A board on which the task at a place is another one. -/
def replace (board : Board R) (place : Nat) (task : Task R) : Board R :=
  { board with tasks := board.tasks.set place task }

theorem replace_self {board : Board R} {place : Nat} {task : Task R}
    (htask : board.tasks[place]? = some task) : board.replace place task = board := by
  obtain ⟨hlt, rfl⟩ := List.getElem?_eq_some_iff.mp htask
  rw [replace, List.set_getElem_self]

@[simp] theorem replace_replace (board : Board R) (place : Nat) (first second : Task R) :
    (board.replace place first).replace place second = board.replace place second := by
  rw [replace, replace, replace, List.set_set]

theorem run_append (board : Board R) (first second : List (Move R)) :
    board.run (first ++ second) =
      ((board.run first).1 ++ ((board.run first).2.run second).1,
        ((board.run first).2.run second).2) := by
  induction first generalizing board with
  | nil => rfl
  | cons move rest ih =>
    rw [List.cons_append, run, run]
    simp only [ih, List.append_assoc]

/-! ## Sending as soon as possible -/

/-- Whether some sends make the task at a place the job that it settles to, and what has been done
for the task together with what is done on them is what an agenda does for this job. -/
def Settles (board : Board R) (place : Nat) (task : Task R) : Prop :=
  ∃ count effects,
    board.run (List.replicate count (.send place)) =
        (effects, board.replace place (.ofJob (task.settle board.client))) ∧
      effectsOf place task ++ effects = [Agenda.effectOf place (task.settle board.client)]

/-- A task settles that is yet to send a request, if every task settles that starts where the
request cannot be built. -/
theorem settles_ready {board : Board R} {place : Nat} {operation : Operation} {listing : Listing}
    {next : Answer operation → Consultation R}
    (htask : board.tasks[place]? = some (.ready operation listing next))
    (hfails : ∀ failure (other : Board R),
      other.tasks[place]? = some (Task.start (next (.error failure))) →
        other.Settles place (Task.start (next (.error failure)))) :
    board.Settles place (.ready operation listing next) := by
  obtain ⟨hlt, -⟩ := List.getElem?_eq_some_iff.mp htask
  cases hrequest : board.client.request operation listing with
  | error failure =>
    -- the operation fails, and what starts in its place settles
    have hstep : board.step (.send place) =
        (effectsOf place (Task.start (next (.error failure))),
          board.replace place (Task.start (next (.error failure)))) := by
      simp only [step, htask, Option.bind_some, Task.send?, hrequest, advance, replace]
    have hstarted : (board.replace place (Task.start (next (.error failure)))).tasks[place]? =
        some (Task.start (next (.error failure))) :=
      List.getElem?_set_self hlt
    obtain ⟨count, effects, hrun, heffects⟩ := hfails failure _ hstarted
    have hsettle : (Task.ready operation listing next).settle board.client =
        (Task.start (next (.error failure))).settle board.client := by
      rw [Task.settle_start]
      simp only [Task.settle, hrequest]
    rw [replace_replace] at hrun
    refine ⟨count + 1, effectsOf place (Task.start (next (.error failure))) ++ effects, ?_, ?_⟩
    · rw [List.replicate_succ, run, hstep, hsettle]
      simp only [hrun]
      rfl
    · rw [hsettle]
      exact heffects
  | ok request =>
    have hsettle : (Task.ready operation listing next).settle board.client =
        .waiting request operation listing next := by
      simp only [Task.settle, hrequest]
    refine ⟨1, [.send place request], ?_, ?_⟩
    · simp only [List.replicate_one, run, step, htask, Option.bind_some, Task.send?, hrequest,
        advance, hsettle, List.append_nil]
      rfl
    · rw [hsettle]
      rfl

theorem settles_start {place : Nat} (consultation : Consultation R) {board : Board R}
    (htask : board.tasks[place]? = some (Task.start consultation)) :
    board.Settles place (Task.start consultation) := by
  induction consultation generalizing board with
  | done result =>
    have hself : board.replace place (.finished result) = board := replace_self htask
    refine ⟨0, [], ?_, rfl⟩
    rw [Task.settle_start, Job.start, Task.ofJob, hself]
    rfl
  | ask operation next ih =>
    rw [Task.start] at htask ⊢
    cases himmediate : operation.immediate? with
    | some outcome =>
      rw [himmediate] at htask
      exact ih (.ok outcome) htask
    | none =>
      rw [himmediate] at htask
      exact settles_ready htask fun failure _ hstarted => ih (.error failure) hstarted

/-- Every task sends until it is the job that it settles to. -/
theorem exists_sends {board : Board R} {place : Nat} {task : Task R}
    (htask : board.tasks[place]? = some task) : board.Settles place task := by
  cases task with
  | finished result => exact settles_start (.done result) htask
  | ready operation listing next =>
    exact settles_ready htask fun failure _ hstarted => settles_start _ hstarted
  | waiting request operation listing next =>
    refine ⟨0, [], ?_, rfl⟩
    rw [Task.settle, Task.ofJob, replace_self htask]
    rfl

/-! ## Occurrences as moves -/

@[simp] theorem begun_append (first second : List (Move R)) :
    begun (first ++ second) = begun first ++ begun second :=
  List.filterMap_append

@[simp] theorem begun_sends (count place : Nat) :
    begun (List.replicate count (.send place) : List (Move R)) = [] := by
  simp [begun]

/-- A board on which a task has come to where it is, and settles then. -/
theorem exists_moves_of_settles {board after : Board R} {move : Move R} {place : Nat}
    {task : Task R} (hstep : board.step move = (effectsOf place task, after))
    (htask : after.tasks[place]? = some task) :
    ∃ moves, begun moves = begun [move] ∧
      board.run moves = ([Agenda.effectOf place (task.settle after.client)],
        after.replace place (.ofJob (task.settle after.client))) := by
  obtain ⟨count, effects, hrun, heffects⟩ := exists_sends htask
  refine ⟨move :: List.replicate count (.send place), ?_, ?_⟩
  · rw [← List.singleton_append, begun_append, begun_sends, List.append_nil]
  · rw [run, hstep]
    simp only [hrun, heffects]

/-- An occurrence of an agenda as moves of its board. -/
theorem exists_moves_of_step (agenda : Agenda R) (occurrence : Agenda.Occurrence R) :
    ∃ moves, begun moves = Agenda.begun [occurrence] ∧
      (ofAgenda agenda).run moves =
        ((agenda.step occurrence).1, ofAgenda (agenda.step occurrence).2) := by
  cases occurrence with
  | beginJob consultation =>
    have hlength : (ofAgenda agenda).tasks.length = agenda.jobs.length := List.length_map _
    have htask : ((ofAgenda agenda).step (.beginTask consultation)).2.tasks[agenda.jobs.length]? =
        some (Task.start consultation) := by
      rw [← hlength]
      exact List.getElem?_concat_length
    have hstep : (ofAgenda agenda).step (.beginTask consultation) =
        (effectsOf agenda.jobs.length (Task.start consultation),
          ((ofAgenda agenda).step (.beginTask consultation)).2) := by
      rw [← hlength]
      rfl
    obtain ⟨moves, hbegun, hrun⟩ := exists_moves_of_settles hstep htask
    refine ⟨moves, hbegun, hrun.trans ?_⟩
    have hlast (job : Job R) : (agenda.jobs.map Task.ofJob ++ [Task.start consultation]).set
        agenda.jobs.length (.ofJob job) = (agenda.jobs ++ [job]).map Task.ofJob := by
      rw [List.set_append_right _ _ (Nat.le_of_eq (List.length_map _)), List.length_map,
        Nat.sub_self, List.map_append]
      rfl
    rw [Task.settle_start]
    simp only [step, replace, ofAgenda, hlast, Agenda.step, Agenda.beginJob]
  | delivery place delivery =>
    cases hjob : agenda.jobs[place]? with
    | none =>
      refine ⟨[], rfl, ?_⟩
      rw [Agenda.deliver_of_none hjob]
      rfl
    | some job =>
      have htask : (ofAgenda agenda).tasks[place]? = some (.ofJob job) := by
        rw [ofAgenda, List.getElem?_map, hjob]
        rfl
      obtain ⟨hlt, -⟩ := List.getElem?_eq_some_iff.mp htask
      cases job with
      | finished result =>
        have hidle : agenda.sendingAt? place = none := by
          simp [Agenda.sendingAt?, hjob, Job.sending?]
        refine ⟨[], rfl, ?_⟩
        rw [Agenda.deliver_of_not_waiting hidle]
        rfl
      | waiting request operation listing next =>
        have hwaits : (Task.ofJob (.waiting request operation listing next)).pending?.isSome := rfl
        obtain ⟨after, hreceive⟩ := Task.receive?_of_pending hwaits delivery
        obtain ⟨hsettle, -⟩ := Task.settle_receive agenda.client hreceive
        have hstep : (ofAgenda agenda).step (.delivery place delivery) =
            (effectsOf place after, (ofAgenda agenda).replace place after) := by
          simp only [step, htask, Option.bind_some, hreceive, advance, replace]
        obtain ⟨moves, hbegun, hrun⟩ := exists_moves_of_settles hstep (List.getElem?_set_self hlt)
        refine ⟨moves, hbegun, hrun.trans ?_⟩
        have hclient : ((ofAgenda agenda).replace place after).client = agenda.client := rfl
        rw [Agenda.deliver_of_waiting hjob, replace_replace, hclient, hsettle, replace, ofAgenda,
          ofAgenda, List.map_set]
        rfl
  | refresh =>
    refine ⟨[.refresh], rfl, ?_⟩
    simp only [run, step, attend, ofAgenda, Agenda.step, Agenda.beginRefresh, List.append_nil]
    cases hrefresh : agenda.refresh with
    | some request => simp only [hrefresh]
    | none => cases agenda.client.tokenRequest <;> simp [hrefresh]
  | refreshDelivery delivery =>
    refine ⟨[.refreshDelivery delivery], rfl, ?_⟩
    simp only [run, step, attend, ofAgenda, Agenda.step, Agenda.endRefresh, List.append_nil]
    cases hrefresh : agenda.refresh with
    | some request => rfl
    | none => simp only [hrefresh]

/-- Every run of an agenda is a run of its board. -/
theorem exists_moves_of_run (agenda : Agenda R) (occurrences : List (Agenda.Occurrence R)) :
    ∃ moves, begun moves = Agenda.begun occurrences ∧
      (ofAgenda agenda).run moves =
        ((agenda.run occurrences).1, ofAgenda (agenda.run occurrences).2) := by
  induction occurrences generalizing agenda with
  | nil => exact ⟨[], rfl, rfl⟩
  | cons occurrence rest ih =>
    obtain ⟨first, hfirst, hstep⟩ := exists_moves_of_step agenda occurrence
    obtain ⟨second, hsecond, hrest⟩ := ih (agenda.step occurrence).2
    refine ⟨first ++ second, ?_, ?_⟩
    · rw [begun_append, hfirst, hsecond, ← Agenda.begun_append, List.singleton_append]
    · rw [run_append, hstep]
      simp only [hrest]
      rfl

end Board

end ChatSteward.Platform
