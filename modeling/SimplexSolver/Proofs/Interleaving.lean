import SimplexSolver.Proofs.Walks

/-!
# Walks in any order

Several walks of one session may be advanced in any order, and solves may come in between.
A schedule is a list of such moves (`Move`), and playing it keeps what every walk has
yielded so far (`Played`). The walks have only the list of runs in common. A step of a walk
reads the run that it owns and no other one; it writes to that run, or it ends the latest
run, which may be that of another walk (`Stepped`, `Moved`). The second is what could do
harm. It does not, because ending a run changes neither its tableau nor its count of
pivots, and a walk reads nothing else.

So under every schedule each run stands at a point of the one solve that nothing
interferes with, each walk has yielded the records up to the point of its run, and no two
walks own the same run (`Sound`). Every move succeeds and keeps this
(`Sound.play_shifted`, `Sound.shifted`), and so does a whole schedule. The main result is
that no walk can tell that there are others: it yields the pivots of the lone solve in
order, and one record without a pivot at its end.
-/

set_option autoImplicit false

namespace SimplexSolver

open Function (update)

variable {α : Type}

/-! ## Schedules -/

/-- What can be done with a session whose switch is left alone. -/
inductive Move where
  /-- Opens a walk under a name, in place of the one that was there. -/
  | start (name : String)
  /-- Makes one step of a walk. -/
  | next (name : String)
  /-- Makes all steps of a walk. -/
  | drain (name : String)
  /-- Solves the problem in a run of its own. -/
  | solve
  deriving DecidableEq, Repr

/-- A session with the records that each of its walks has yielded. -/
structure Played (α : Type) where
  session : Session α
  yields : String → List (Record α)

namespace Played

/-- A session at its beginning, which has no walks. -/
def fresh (problem : Problem α) (settings : Settings α) (hasSwitch : Bool) : Played α :=
  ⟨Session.fresh problem settings hasSwitch, fun _ => []⟩

/-- The session after steps in which a walk yielded further records. -/
def after (played : Played α) (name : String) (session : Session α) (records : List (Record α)) :
    Played α :=
  ⟨session, update played.yields name (played.yields name ++ records)⟩

/-- The session in which a walk has begun its run and has made no step in it. -/
def begun (played : Played α) (name : String) (run : Run α) : Played α :=
  { played with
    session := (played.session.begin run).setWalk name (.suspended played.session.runs.length) }

theorem after_nil (played : Played α) (name : String) :
    played.after name played.session [] = played := by
  simp [after]

theorem after_after (played : Played α) (name : String) (session later : Session α)
    (records more : List (Record α)) :
    (played.after name session records).after name later more =
      played.after name later (records ++ more) := by
  simp [after]

end Played

/-- The walks that have to be there for a move. -/
def Move.needs : Move → List String
  | .next name | .drain name => [name]
  | .start _ | .solve => []

/-- The walks that are there after a move. -/
def Move.opens : Move → List String
  | .start name => [name]
  | .next _ | .drain _ | .solve => []

/-- Whether every walk is started before it is advanced, if some have been started
already. -/
def isScheduled (started : List String) : List Move → Bool
  | [] => true
  | move :: rest => move.needs.all started.contains && isScheduled (move.opens ++ started) rest

section Play

variable [Scalar α]

/-- One move. -/
def Move.play (played : Played α) : Move → Except Failure (Played α)
  | .start name => .ok ⟨played.session.openWalk name, update played.yields name []⟩
  | .next name => do
    let moved ← played.session.next name
    return played.after name moved.session moved.record.toList
  | .drain name => do
    let walked ← played.session.drain name
    return played.after name walked.session walked.records
  | .solve => do
    let (session, _, _) ← played.session.solve
    return { played with session }

/-- All moves of a schedule. -/
def plays (played : Played α) (moves : List Move) : Except Failure (Played α) :=
  moves.foldlM Move.play played

end Play

/-! ## Names and runs -/

/-- What holds of all items and of a new one holds after one of them was replaced by it. -/
theorem forall_mem_set {β : Type} {property : β → Prop} {items : List β} {fresh : β}
    (all : ∀ item ∈ items, property item) (new : property fresh) (index : Nat) :
    ∀ item ∈ items.set index fresh, property item := by
  intro item member
  rcases List.mem_or_eq_of_mem_set member with old | rfl
  · exact all item old
  · exact new

namespace Session

/-- The session has a walk of this name. -/
def Knows (session : Session α) (name : String) : Prop := ∃ walk, session.walk name = .ok walk

theorem knows_setWalk (session : Session α) (name other : String) (walk : Walk) :
    (session.setWalk name walk).Knows other ↔ other = name ∨ session.Knows other := by
  unfold Knows
  rw [walk_setWalk]
  by_cases same : other = name
  · simp [same]
  · simp [same]

/-- A name stands for one walk only. -/
theorem setWalk_setWalk (session : Session α) (name : String) (walk later : Walk) :
    (session.setWalk name walk).setWalk name later = session.setWalk name later := by
  simp [setWalk, List.filter_filter]

/-- Beginning a run leaves the others where they are. -/
theorem getElem?_begin {session : Session α} {index : Nat} {run : Run α}
    (owned : session.runs[index]? = some run) {fresh : Run α} :
    (session.begin fresh).runs[index]? = some run :=
  (List.getElem?_append_left (List.getElem?_eq_some_iff.mp owned).1).trans owned

/-- The latest run is the one at the last place. -/
theorem getElem?_latest [Scalar α] {session : Session α} {index : Nat} {run : Run α}
    (owned : session.runs[index]? = some run) :
    session.runs[session.runs.length - 1]? = some session.latest := by
  have nonempty : session.runs ≠ [] := List.ne_nil_of_mem (List.mem_of_getElem? owned)
  rw [latest, List.getLastD_eq_getLast?, List.getLast?_eq_getElem?, List.getElem?_eq_getElem]
  · rfl
  · exact Nat.sub_lt (List.length_pos_iff.mpr nonempty) one_pos

end Session

variable [Scalar α] {problem : Problem α} {settings : Settings α} (lone : Lone problem settings)

/-! ## Runs of the same solve -/

/-- A solution that belongs to the solve: it gives the reason for which the solve stops,
its pivots are the first ones of the solve, and its values are those of the tableau that
these pivots lead to. -/
structure Lone.Shares (solution : Solution α) : Prop where
  pivots : solution.history.filter (·.choice.isSome) =
    lone.result.records.take solution.iterations
  read : ∃ tableau, lone.tableauAt solution.iterations = some tableau ∧
    Solution.atTableau tableau lone.result.status lone.result.message solution.history =
      .ok solution

/-- A run that follows the solve: it stands at a point of the solve, its pivots are those
made up to there, and its solution, if it has one, belongs to the solve. -/
structure Run.Follows (run : Run α) : Prop where
  stands : run.StandsIn lone
  pivots : run.history.filter (·.choice.isSome) = lone.result.records.take run.iterations
  answer : ∀ solution, run.solution = some solution → lone.Shares solution

namespace Run

variable {lone} {run : Run α}

/-- A run with which nothing interferes follows the solve up to its end. -/
theorem follows_runAfter {steps : Nat} (inside : steps ≤ lone.total) :
    (lone.runAfter steps).Follows lone := by
  refine ⟨lone.standsIn_runAfter inside, ?_, ?_⟩
  · rw [lone.runAfter_of_le inside]
    exact List.filter_eq_self.mpr fun record member =>
      lone.isSome_choice (List.mem_of_mem_take member)
  · intro solution shown
    rw [lone.runAfter_of_le inside] at shown
    cases shown

theorem follows_started : (Run.started lone.start).Follows lone :=
  lone.runAfter_zero ▸ follows_runAfter (Nat.zero_le _)

/-- The next pivot keeps a run on the solve. -/
theorem Follows.pivoted (follows : run.Follows lone) {record : Record α} {next : Tableau α}
    (before : run.iterations < lone.total)
    (recorded : lone.result.records[run.iterations]? = some record)
    (there : lone.tableauAt (run.iterations + 1) = some next) :
    (run.pivoted record next).Follows lone := by
  refine ⟨.pivoted before there, ?_, follows.answer⟩
  have holds : record.choice.isSome := lone.isSome_choice (List.mem_of_getElem? recorded)
  change (run.history ++ [record]).filter _ = lone.result.records.take (run.iterations + 1)
  rw [List.filter_append, follows.pivots, List.take_add_one, recorded,
    List.filter_eq_self.mpr (by simpa using holds), Option.toList_some]

/-- Ending a run keeps it on the solve, where it stands, and makes a record without a
pivot. -/
theorem Follows.finished (follows : run.Follows lone) :
    ∃ ended record, run.finished lone.result.status lone.result.message = .ok (ended, record) ∧
      ended.Follows lone ∧ ended.iterations = run.iterations ∧ record.choice = none := by
  obtain ⟨tableau, solution, here, answer, made⟩ :=
    follows.stands.exists_finished lone.result.status lone.result.message
  have pivots : (run.history ++ [finalRecord tableau]).filter (·.choice.isSome) =
      lone.result.records.take run.iterations := by
    rw [List.filter_append, follows.pivots]
    simp [finalRecord]
  have history := (Solution.parts_of_atTableau answer).2.2.1
  have count : solution.iterations = run.iterations := by
    rw [Solution.iterations, history, List.countP_eq_length_filter, pivots, List.length_take]
    exact Nat.min_eq_left follows.stands.inside
  refine ⟨_, _, made, ⟨⟨follows.stands.inside, follows.stands.tableau_eq⟩, pivots, ?_⟩, rfl, rfl⟩
  intro shown same
  obtain rfl := Option.some.inj same
  exact ⟨by rw [history, pivots, count], tableau, count ▸ here, history ▸ answer⟩

/-- A run that ended as the solve does follows it. -/
theorem follows_runAfter_end : (lone.runAfter (lone.total + 1)).Follows lone := by
  obtain ⟨ended, record, made, follows, -⟩ := (follows_runAfter (le_refl lone.total)).finished
  rw [lone.finished_runAfter, Except.ok.injEq, Prod.mk.injEq] at made
  rwa [made.1]

end Run

/-! ## What one step does -/

/-- What a step does with the run of a walk, before the walk is put back under its
name. -/
inductive Stepped (session : Session α) (index : Nat) : Advance α → Prop where
  /-- The next pivot of the solve, in the walk's own run. -/
  | pivoted {run : Run α} {record : Record α} {next : Tableau α} (log : List LogLine)
      (owned : session.runs[index]? = some run) (before : run.iterations < lone.total)
      (recorded : lone.result.records[run.iterations]? = some record)
      (there : lone.tableauAt (run.iterations + 1) = some next) :
      Stepped session index ⟨{ session with
        runs := session.runs.set index (run.pivoted record next) }, .suspended index,
        some record, log⟩
  /-- The end of the latest run. -/
  | ended {run last : Run α} {record : Record α} (log : List LogLine)
      (owned : session.runs[index]? = some run) (all : run.iterations = lone.total)
      (finished : session.latest.finished lone.result.status lone.result.message =
        .ok (last, record)) :
      Stepped session index ⟨session.setLatest last, .over, some record, log⟩

/-- A step does not look at the names of walks. -/
theorem Stepped.setWalk {lone : Lone problem settings} {session : Session α} {index : Nat}
    {moved : Advance α} (stepped : Stepped lone session index moved) (name : String)
    (walk : Walk) :
    Stepped lone (session.setWalk name walk) index
      { moved with session := moved.session.setWalk name walk } := by
  cases stepped with
  | pivoted log owned before recorded there => exact .pivoted log owned before recorded there
  | ended log owned all finished => exact .ended log owned all finished

/-- What advancing a walk does. A walk that waits begins its run first. -/
inductive Moved (name : String) : Played α → Played α → Prop where
  | rested {played : Played α} (atEnd : played.session.walk name = .ok .over) :
      Moved name played (played.after name (played.session.setWalk name .over) [])
  | stepped {played : Played α} {index : Nat} {moved : Advance α}
      (here : played.session.walk name = .ok (.suspended index))
      (made : Stepped lone played.session index moved) :
      Moved name played
        (played.after name (moved.session.setWalk name moved.walk) moved.record.toList)
  | begun {played later : Played α} (waiting : played.session.walk name = .ok .waiting)
      (rest : Moved name (played.begun name (Run.started lone.start)) later) :
      Moved name played later

section Known

variable {lone} {played later : Played α} {name other : String}

/-- Advancing a walk removes no name. -/
theorem Moved.knows (moved : Moved lone name played later)
    (known : played.session.Knows other) : later.session.Knows other := by
  induction moved with
  | rested _ => exact (Session.knows_setWalk _ name other _).mpr (.inr known)
  | stepped here made =>
      refine (Session.knows_setWalk _ name other _).mpr (.inr ?_)
      cases made <;> exact known
  | begun waiting _ ih => exact ih ((Session.knows_setWalk _ name other _).mpr (.inr known))

theorem knows_of_moves (steps : Relation.ReflTransGen (Moved lone name) played later)
    (known : played.session.Knows other) : later.session.Knows other := by
  induction steps with
  | refl => exact known
  | tail _ step ih => exact step.knows ih

end Known

/-! ## What holds under every schedule -/

/-- What a walk has yielded, given the runs of its session. -/
def Walk.Yielded (runs : List (Run α)) (yields : List (Record α)) : Walk → Prop
  | .waiting => yields = []
  | .suspended index => ∃ run, runs[index]? = some run ∧
      yields = lone.result.records.take run.iterations
  | .over => ∃ final, final.choice = none ∧ yields = lone.result.records ++ [final]

/-- Every run follows the lone solve, every walk has yielded the records up to where its
run stands, and no two walks own the same run. -/
structure Sound (played : Played α) : Prop where
  quiet : Session.Quiet problem settings played.session
  follows : ∀ run ∈ played.session.runs, run.Follows lone
  yielded : ∀ name walk, played.session.walk name = .ok walk →
    walk.Yielded lone played.session.runs (played.yields name)
  apart : ∀ name other index, played.session.walk name = .ok (.suspended index) →
    played.session.walk other = .ok (.suspended index) → other = name

variable {lone}

theorem sound_fresh (hasSwitch : Bool) : Sound lone (.fresh problem settings hasSwitch) where
  quiet := Session.quiet_fresh problem settings hasSwitch
  follows := fun run member => by cases member
  yielded := fun name walk known => by cases known
  apart := fun name other index known => by cases known

/-- What a walk has yielded depends only on how many pivots its run has made. -/
theorem Walk.Yielded.of_runs {walk : Walk} {runs later : List (Run α)} {yields : List (Record α)}
    (yielded : walk.Yielded lone runs yields)
    (kept : ∀ index run, walk = .suspended index → runs[index]? = some run →
      ∃ found, later[index]? = some found ∧ found.iterations = run.iterations) :
    walk.Yielded lone later yields := by
  cases walk with
  | waiting => exact yielded
  | «over» => exact yielded
  | suspended index =>
      obtain ⟨run, owned, made⟩ := yielded
      obtain ⟨found, here, count⟩ := kept index run rfl owned
      exact ⟨found, here, count ▸ made⟩

/-- A walk has not yielded more than all pivots and one record. -/
theorem Walk.Yielded.length_le {walk : Walk} {runs : List (Run α)} {yields : List (Record α)}
    (yielded : walk.Yielded lone runs yields) : yields.length ≤ lone.total + 1 := by
  cases walk with
  | waiting =>
      rw [show yields = [] from yielded]
      exact Nat.zero_le _
  | suspended index =>
      obtain ⟨run, -, rfl⟩ := yielded
      rw [List.length_take]
      exact (Nat.min_le_right _ _).trans (Nat.le_succ _)
  | «over» =>
      obtain ⟨final, -, rfl⟩ := yielded
      rw [List.length_append]
      exact le_rfl

/-- The pivots that a walk has yielded are the first ones of the solve. -/
theorem Walk.Yielded.pivots_isPrefix {walk : Walk} {runs : List (Run α)}
    {yields : List (Record α)} (yielded : walk.Yielded lone runs yields) :
    yields.filter (·.choice.isSome) <+: lone.result.records := by
  have all : ∀ records : List (Record α), records <+: lone.result.records →
      records.filter (·.choice.isSome) = records := by
    intro records first
    exact List.filter_eq_self.mpr fun record member => lone.isSome_choice (first.subset member)
  cases walk with
  | waiting =>
      rw [show yields = [] from yielded]
      exact List.nil_prefix
  | suspended index =>
      obtain ⟨run, -, rfl⟩ := yielded
      rw [all _ ( List.take_prefix _ _)]
      exact List.take_prefix _ _
  | «over» =>
      obtain ⟨final, plain, rfl⟩ := yielded
      rw [List.filter_append, all _ List.prefix_rfl]
      simp [plain]

namespace Sound

variable {played later : Played α} {name : String}

/-- All stays sound when one walk and the runs are changed, if the other walks find their runs
with the same number of pivots. -/
theorem changed (sound : Sound lone played) {session : Session α} {walk : Walk}
    {yields : List (Record α)} (quiet : Session.Quiet problem settings session)
    (walks : ∀ other, session.walk other =
      if other = name then .ok walk else played.session.walk other)
    (follows : ∀ run ∈ session.runs, run.Follows lone)
    (yielded : walk.Yielded lone session.runs yields)
    (kept : ∀ other index run, other ≠ name →
      played.session.walk other = .ok (.suspended index) →
        played.session.runs[index]? = some run → walk ≠ .suspended index ∧
          ∃ later, session.runs[index]? = some later ∧ later.iterations = run.iterations) :
    Sound lone ⟨session, update played.yields name yields⟩ := by
  have itself : session.walk name = .ok walk := (walks name).trans (if_pos rfl)
  refine ⟨quiet, follows, ?_, ?_⟩
  · intro other found known
    dsimp only at known ⊢
    by_cases same : other = name
    · subst same
      rw [itself, Except.ok.injEq] at known
      rw [← known, Function.update_self]
      exact yielded
    · rw [walks other, if_neg same] at known
      rw [Function.update_of_ne same]
      refine (sound.yielded other found known).of_runs fun index run here owned => ?_
      exact (kept other index run same (here ▸ known) owned).2
  -- the walk that was changed owns no run of another one
  · intro first second index one two
    dsimp only at one two
    by_cases here : first = name <;> by_cases there : second = name
    · rw [here, there]
    · rw [here, itself, Except.ok.injEq] at one
      rw [walks second, if_neg there] at two
      obtain ⟨run, owned, -⟩ := sound.yielded second _ two
      exact absurd one (kept second index run there two owned).1
    · rw [there, itself, Except.ok.injEq] at two
      rw [walks first, if_neg here] at one
      obtain ⟨run, owned, -⟩ := sound.yielded first _ one
      exact absurd two (kept first index run here one owned).1
    · rw [walks first, if_neg here] at one
      rw [walks second, if_neg there] at two
      exact sound.apart first second index one two

/-- Opening a walk. -/
theorem opened (sound : Sound lone played) (name : String) :
    Sound lone ⟨played.session.openWalk name, update played.yields name []⟩ := by
  refine sound.changed (sound.quiet.setWalk name .waiting)
    (fun other => played.session.walk_setWalk name other .waiting) sound.follows rfl ?_
  intro other index run _ _ owned
  exact ⟨Walk.noConfusion, run, owned, rfl⟩

/-- A run that is begun follows the solve, and the others are where they were. -/
theorem follows_begin (sound : Sound lone played) {fresh : Run α} (follows : fresh.Follows lone) :
    ∀ run ∈ (played.session.begin fresh).runs, run.Follows lone :=
  List.forall_mem_append.mpr ⟨sound.follows, List.forall_mem_singleton.mpr follows⟩

/-- Solving at once. -/
theorem solved (sound : Sound lone played) : Sound lone { played with
    session := played.session.begin (lone.runAfter (lone.total + 1)) } := by
  refine ⟨sound.quiet.setRuns _, sound.follows_begin Run.follows_runAfter_end, ?_, sound.apart⟩
  intro name walk known
  refine (sound.yielded name walk known).of_runs fun index run _ owned => ?_
  exact ⟨run, Session.getElem?_begin owned, rfl⟩

/-- Beginning the run of a walk. -/
theorem begun (sound : Sound lone played) (waiting : played.session.walk name = .ok .waiting) :
    Sound lone (played.begun name (Run.started lone.start)) := by
  have none : played.yields name = [] := sound.yielded name .waiting waiting
  have same : played.yields = update played.yields name [] := by
    rw [← none, Function.update_eq_self]
  rw [Played.begun, same]
  refine sound.changed ((sound.quiet.setRuns _).setWalk name _)
    (fun other => (played.session.begin _).walk_setWalk name other _)
    (sound.follows_begin Run.follows_started) ⟨Run.started lone.start, ?_, rfl⟩ ?_
  · exact List.getElem?_concat_length
  · intro other index run _ _ owned
    have low : index < played.session.runs.length := (List.getElem?_eq_some_iff.mp owned).1
    refine ⟨fun equal => ?_, run, Session.getElem?_begin owned, rfl⟩
    rw [Walk.suspended.injEq] at equal
    exact absurd low (equal ▸ lt_irrefl _)

/-- A walk that owns a run has yielded the pivots of this run. -/
theorem yields_eq (sound : Sound lone played) {index : Nat} {run : Run α}
    (here : played.session.walk name = .ok (.suspended index))
    (owned : played.session.runs[index]? = some run) :
    played.yields name = lone.result.records.take run.iterations := by
  obtain ⟨found, same, yielded⟩ := sound.yielded name _ here
  obtain rfl := Option.some.inj (owned.symm.trans same)
  exact yielded

/-- All stays sound under a pivot in the run of a walk: no other walk owns that run. -/
theorem pivoted (sound : Sound lone played) {index : Nat} {run : Run α} {record : Record α}
    {next : Tableau α} (here : played.session.walk name = .ok (.suspended index))
    (owned : played.session.runs[index]? = some run) (before : run.iterations < lone.total)
    (recorded : lone.result.records[run.iterations]? = some record)
    (there : lone.tableauAt (run.iterations + 1) = some next) :
    Sound lone (played.after name (Session.setWalk { played.session with
      runs := played.session.runs.set index (run.pivoted record next) } name (.suspended index))
      [record]) := by
  have follows := (sound.follows run (List.mem_of_getElem? owned)).pivoted before recorded there
  refine sound.changed ((sound.quiet.setRuns _).setWalk name _)
    (fun other => Session.walk_setWalk _ name other _) (forall_mem_set sound.follows follows index)
    ⟨run.pivoted record next, ?_, ?_⟩ ?_
  · exact List.getElem?_set_self (List.getElem?_eq_some_iff.mp owned).1
  · rw [sound.yields_eq here owned, Run.pivoted, List.take_add_one, recorded]
    rfl
  · intro other place found apart held there
    have elsewhere : place ≠ index := by
      rintro rfl
      exact apart (sound.apart name other place here held)
    refine ⟨fun equal => elsewhere (Walk.suspended.inj equal).symm, found, ?_, rfl⟩
    exact (List.getElem?_set_ne elsewhere.symm).trans there

/-- All stays sound at the end of a walk. The latest run, which is ended, may be another walk's;
it has as many pivots as before. -/
theorem ended (sound : Sound lone played) {index : Nat} {run last : Run α} {record : Record α}
    (here : played.session.walk name = .ok (.suspended index))
    (owned : played.session.runs[index]? = some run) (all : run.iterations = lone.total)
    (finished : played.session.latest.finished lone.result.status lone.result.message =
      .ok (last, record)) :
    Sound lone (played.after name ((played.session.setLatest last).setWalk name .over)
      [record]) := by
  have latest := Session.getElem?_latest owned
  obtain ⟨ended, final, again, follows, count, plain⟩ :=
    (sound.follows _ (List.mem_of_getElem? latest)).finished
  rw [finished, Except.ok.injEq, Prod.mk.injEq] at again
  obtain ⟨rfl, rfl⟩ := again
  refine sound.changed ((sound.quiet.setRuns _).setWalk name _)
    (fun other => Session.walk_setWalk _ name other _) (forall_mem_set sound.follows follows _)
    ⟨record, plain, ?_⟩ ?_
  · rw [sound.yields_eq here owned, all, lone.take_total]
  · intro other place found apart held there
    refine ⟨Walk.noConfusion, ?_⟩
    by_cases ends : place = played.session.runs.length - 1
    · subst ends
      rw [latest, Option.some.injEq] at there
      refine ⟨last, ?_, there ▸ count⟩
      exact List.getElem?_set_self (List.getElem?_eq_some_iff.mp latest).1
    · exact ⟨found, (List.getElem?_set_ne (Ne.symm ends)).trans there, rfl⟩

/-- Advancing a walk that is over. -/
theorem rested (sound : Sound lone played) (atEnd : played.session.walk name = .ok .over) :
    Sound lone (played.after name (played.session.setWalk name .over) []) := by
  refine sound.changed (sound.quiet.setWalk name .over)
    (fun other => played.session.walk_setWalk name other .over) sound.follows ?_ ?_
  · rw [List.append_nil]
    exact sound.yielded name .over atEnd
  · intro other index run _ _ owned
    exact ⟨Walk.noConfusion, run, owned, rfl⟩

/-- Advancing a walk keeps all walks sound. -/
theorem moved (sound : Sound lone played) (moved : Moved lone name played later) :
    Sound lone later := by
  induction moved with
  | rested atEnd => exact sound.rested atEnd
  | stepped here made =>
      cases made with
      | pivoted log owned before recorded there =>
          exact sound.pivoted here owned before recorded there
      | ended log owned all finished => exact sound.ended here owned all finished
  | begun waiting _ ih => exact ih (sound.begun waiting)

theorem moves (sound : Sound lone played)
    (steps : Relation.ReflTransGen (Moved lone name) played later) : Sound lone later := by
  induction steps with
  | refl => exact sound
  | tail _ step ih => exact ih.moved step

end Sound

/-! ## Every move succeeds -/

/-- If all runs follow the solve, any of them can make its step. -/
theorem exists_stepped {session : Session α} (quiet : Session.Quiet problem settings session)
    (follows : ∀ run ∈ session.runs, run.Follows lone) {index : Nat} {run : Run α}
    (owned : session.runs[index]? = some run) :
    ∃ moved, session.stepRun index = .ok moved ∧ Stepped lone session index moved := by
  have stands := (follows run (List.mem_of_getElem? owned)).stands
  rcases stands.inside.lt_or_eq with before | all
  · obtain ⟨record, next, log, recorded, there, made⟩ :=
      Session.stepRun_of_lt quiet owned stands before
    exact ⟨_, made, .pivoted log owned before recorded there⟩
  · have latest := Session.getElem?_latest owned
    obtain ⟨ended, record, finished, -⟩ := (follows _ (List.mem_of_getElem? latest)).finished
    obtain ⟨log, made⟩ := Session.stepRun_of_eq quiet owned stands all finished
    exact ⟨_, made, .ended log owned all finished⟩

theorem Stepped.record_ne_none {session : Session α} {index : Nat} {moved : Advance α}
    (stepped : Stepped lone session index moved) : moved.record ≠ none := by
  cases stepped <;> simp

namespace Sound

variable {played : Played α} {name : String}

/-- A walk can be advanced, and it yields a record unless it is over. -/
theorem next_moved (sound : Sound lone played) (known : played.session.Knows name) :
    ∃ moved, played.session.next name = .ok moved ∧
      Moved lone name played (played.after name moved.session moved.record.toList) ∧
        (moved.record = none → moved.session.walk name = .ok .over) := by
  obtain ⟨walk, known⟩ := known
  cases walk with
  | «over» =>
      exact ⟨_, Session.next_of_advance known rfl, .rested known,
        fun _ => played.session.walk_setWalk_self name .over⟩
  | suspended index =>
      obtain ⟨run, owned, -⟩ := sound.yielded name _ known
      obtain ⟨moved, made, stepped⟩ := exists_stepped sound.quiet sound.follows owned
      exact ⟨_, Session.next_of_advance known made, .stepped known stepped,
        fun none => absurd none stepped.record_ne_none⟩
  | waiting =>
      have begun : Session.Quiet problem settings
          (played.session.begin (Run.started lone.start)) := sound.quiet.setRuns _
      obtain ⟨moved, made, stepped⟩ := exists_stepped begun
        (sound.follows_begin Run.follows_started) List.getElem?_concat_length
      have built : played.session.problem.startingTableau = .ok lone.start := by
        rw [sound.quiet.problem_eq, lone.built]
      have advanced : played.session.advance .waiting =
          .ok { moved with log := LogLine.built lone.start :: moved.log } := by
        simp only [Session.advance, built, made, bind, Except.bind, pure, Except.pure]
      refine ⟨_, Session.next_of_advance known advanced, .begun known ?_,
        fun none => absurd none stepped.record_ne_none⟩
      have itself : (played.begun name (Run.started lone.start)).session.walk name =
          .ok (.suspended played.session.runs.length) :=
        Session.walk_setWalk_self _ name _
      have step := Moved.stepped itself (stepped.setWalk name _)
      rwa [Session.setWalk_setWalk] at step

/-- Any number of steps of a walk: they are made until the walk is over. -/
theorem exhaust_moved (sound : Sound lone played) (known : played.session.Knows name)
    (budget : Nat) :
    ∃ walked, played.session.exhaust name budget = .ok walked ∧
      Relation.ReflTransGen (Moved lone name) played
          (played.after name walked.session walked.records) ∧
        (walked.session.walk name = .ok .over ∨ walked.records.length = budget) := by
  induction budget generalizing played with
  | zero =>
      refine ⟨⟨played.session, [], []⟩, rfl, ?_, .inr rfl⟩
      rw [Played.after_nil]
  | succ budget ih =>
      obtain ⟨moved, made, step, atEnd⟩ := sound.next_moved known
      cases shown : moved.record with
      | none =>
          rw [shown] at step
          refine ⟨⟨moved.session, [], moved.log⟩, ?_, .single step, .inl (atEnd shown)⟩
          simp only [Session.exhaust, made, shown, bind, Except.bind, pure, Except.pure]
      | some record =>
          rw [shown] at step
          obtain ⟨walked, exhausted, steps, ended⟩ := ih (sound.moved step) (step.knows known)
          refine ⟨⟨walked.session, record :: walked.records, moved.log ++ walked.log⟩, ?_, ?_,
            ended.imp_right (congrArg (· + 1))⟩
          · change moved.session.exhaust name budget = .ok walked at exhausted
            simp only [Session.exhaust, made, shown, exhausted, bind, Except.bind, pure,
              Except.pure]
          · rw [Played.after_after] at steps
            exact .head step steps

/-- A walk can be drained, and then it is over. -/
theorem drain_moved (sound : Sound lone played) (known : played.session.Knows name) :
    ∃ walked, played.session.drain name = .ok walked ∧
      Relation.ReflTransGen (Moved lone name) played
          (played.after name walked.session walked.records) ∧
        walked.session.walk name = .ok .over := by
  obtain ⟨walked, made, steps, atEnd | long⟩ := sound.exhaust_moved known played.session.budget
  · exact ⟨walked, made, steps, atEnd⟩
  -- a walk makes fewer records than the budget allows
  · have enough := Session.total_lt_budget lone sound.quiet
    have after := sound.moves steps
    obtain ⟨walk, found⟩ := knows_of_moves steps known
    have short := (after.yielded name walk found).length_le
    simp only [Played.after, Function.update_self, List.length_append] at short
    omega

end Sound

/-! ## Whole schedules -/

variable (lone) in
/-- What one move of a schedule does. -/
inductive Shifted (played : Played α) : Played α → Prop where
  | opened (name : String) :
      Shifted played ⟨played.session.openWalk name, update played.yields name []⟩
  | walked {name : String} {later : Played α}
      (steps : Relation.ReflTransGen (Moved lone name) played later) : Shifted played later
  | solved : Shifted played { played with
      session := played.session.begin (lone.runAfter (lone.total + 1)) }

section Shifted

variable {played later : Played α}

theorem Sound.shifted (sound : Sound lone played) (shifted : Shifted lone played later) :
    Sound lone later := by
  cases shifted with
  | opened name => exact sound.opened name
  | walked steps => exact sound.moves steps
  | solved => exact sound.solved

/-- A move removes no name. -/
theorem Shifted.knows (shifted : Shifted lone played later) {name : String}
    (known : played.session.Knows name) : later.session.Knows name := by
  cases shifted with
  | opened other => exact (played.session.knows_setWalk other name .waiting).mpr (.inr known)
  | walked steps => exact knows_of_moves steps known
  | solved => exact known

/-- **Every move succeeds**, if the walk that it advances is there. -/
theorem Sound.play_shifted (sound : Sound lone played) {move : Move}
    (known : ∀ name ∈ move.needs, played.session.Knows name) :
    ∃ later, move.play played = .ok later ∧ Shifted lone played later ∧
      ∀ name ∈ move.opens, later.session.Knows name := by
  cases move with
  | start name =>
      refine ⟨_, rfl, .opened name, fun other member => ?_⟩
      exact (played.session.knows_setWalk name other .waiting).mpr
        (.inl (List.mem_singleton.mp member))
  | next name =>
      obtain ⟨moved, made, step, -⟩ := sound.next_moved (known name List.mem_cons_self)
      refine ⟨_, ?_, .walked (.single step), fun other member => by cases member⟩
      simp only [Move.play, made, bind, Except.bind, pure, Except.pure]
  | drain name =>
      obtain ⟨walked, made, steps, -⟩ := sound.drain_moved (known name List.mem_cons_self)
      refine ⟨_, ?_, .walked steps, fun other member => by cases member⟩
      simp only [Move.play, made, bind, Except.bind, pure, Except.pure]
  | solve =>
      obtain ⟨log, made⟩ := Session.solve_of_quiet lone sound.quiet
      refine ⟨_, ?_, .solved, fun other member => by cases member⟩
      simp only [Move.play, made, bind, Except.bind, pure, Except.pure]

/-- The first move of a schedule succeeds, and the rest is a schedule for what it leads
to. -/
theorem Sound.play_scheduled (sound : Sound lone played) {move : Move} {rest : List Move}
    {started : List String} (scheduled : isScheduled started (move :: rest) = true)
    (known : ∀ name ∈ started, played.session.Knows name) :
    ∃ later, move.play played = .ok later ∧ Shifted lone played later ∧
      isScheduled (move.opens ++ started) rest = true ∧
        ∀ name ∈ move.opens ++ started, later.session.Knows name := by
  simp only [isScheduled, Bool.and_eq_true, List.all_eq_true, List.contains_iff_mem]
    at scheduled
  obtain ⟨needs, scheduled⟩ := scheduled
  obtain ⟨later, made, shifted, opens⟩ :=
    sound.play_shifted fun name member => known name (needs name member)
  refine ⟨later, made, shifted, scheduled, fun name member => ?_⟩
  rcases List.mem_append.mp member with new | old
  · exact opens name new
  · exact shifted.knows (known name old)

theorem plays_cons {move : Move} (made : move.play played = .ok later) (rest : List Move) :
    plays played (move :: rest) = plays later rest := by
  simp only [plays, List.foldlM_cons, made, bind, Except.bind]

/-- **Every schedule succeeds**, and all stays sound. -/
theorem Sound.exists_plays (sound : Sound lone played) (moves : List Move)
    (started : List String) (scheduled : isScheduled started moves = true)
    (known : ∀ name ∈ started, played.session.Knows name) :
    ∃ later, plays played moves = .ok later ∧ Sound lone later := by
  induction moves generalizing started played with
  | nil => exact ⟨played, rfl, sound⟩
  | cons move rest ih =>
      obtain ⟨next, made, shifted, scheduled, known⟩ := sound.play_scheduled scheduled known
      obtain ⟨later, finished, after⟩ := ih (sound.shifted shifted) _ scheduled known
      exact ⟨later, (plays_cons made rest).trans finished, after⟩

end Shifted

/-! ## No walk can tell that there are others -/

namespace Problem

/-- **Walks do not interfere.** Let moves be made with a session of an accepted problem whose
limit stands for a number, as every whole number does, in any order in which every walk is
started before it is advanced. All moves succeed. The pivots that a walk has yielded are the
first ones of the lone solve, in order; a walk that is over has yielded all of them and then
one record without a pivot, and draining a walk leads there. Solving the problem after these
moves, at once or by a walk of its own, gives the solution of the lone solve. -/
theorem walks_do_not_interfere {problem : Problem α} {settings : Settings α} {count : Count}
    {limit : Quantity α} {number : Rat} (valid : problem.validate = .ok count)
    (limited : settings.limit count.toInt problem.constraints.length = .ok limit)
    (means : limit.Means number) (hasSwitch : Bool) {moves : List Move}
    (scheduled : isScheduled [] moves = true) :
    ∃ solution played, problem.solve settings false = .ok solution ∧
      plays (.fresh problem settings hasSwitch) moves = .ok played ∧
        (∀ name walk, played.session.walk name = .ok walk →
          (played.yields name).filter (·.choice.isSome) <+:
              solution.history.filter (·.choice.isSome) ∧
            (walk = .over → ∃ final, final.choice = none ∧
              played.yields name = solution.history.filter (·.choice.isSome) ++ [final]) ∧
            ∃ walked, played.session.drain name = .ok walked ∧
              walked.session.walk name = .ok .over) ∧
        (∃ session log, played.session.solve = .ok (session, solution, log)) ∧
          ∀ name, ∃ walked, (played.session.openWalk name).drain name = .ok walked ∧
            walked.records = solution.history ∧ walked.session.solution? = some solution := by
  obtain ⟨lone, -⟩ := exists_lone valid limited means
  have start : Sound lone (.fresh problem settings hasSwitch) := sound_fresh hasSwitch
  obtain ⟨played, made, sound⟩ :=
    start.exists_plays moves [] scheduled fun name member => by cases member
  refine ⟨lone.solution, played, lone.solve_eq, made, ?_, ?_, ?_⟩
  · rw [lone.filter_history]
    intro name walk known
    have yielded := sound.yielded name walk known
    obtain ⟨walked, drained, -, atEnd⟩ := sound.drain_moved ⟨walk, known⟩
    refine ⟨yielded.pivots_isPrefix, ?_, walked, drained, atEnd⟩
    rintro rfl
    exact yielded
  · obtain ⟨log, solved⟩ := Session.solve_of_quiet lone sound.quiet
    exact ⟨_, log, solved⟩
  · intro name
    obtain ⟨walked, drained, records, -, runs⟩ := Session.drain_openWalk lone sound.quiet name
    refine ⟨walked, drained, records.trans lone.history_eq.symm, ?_⟩
    rw [Session.solution?, Session.latest, runs, List.getLastD_concat, lone.runAfter_end]

/-- One walk makes all its pivots; another one begins, makes a pivot, and stays there; then
the first one comes to its end. -/
def crossedWalks : List Move :=
  [.start "a", .next "a", .next "a", .start "b", .next "b", .next "a"]

/-- The standard limit of `twoLimits`. -/
theorem limit_twoLimits : (Settings.standard : Settings Rat).limit (Count.whole 2).toInt
    twoLimits.constraints.length = .ok (.whole 80) := by rfl

/-- The walk that came to its end has yielded both pivots of the problem, and the other one
can go on. -/
theorem walks_do_not_interfere_twoLimits :
    ∃ solution played, twoLimits.solve Settings.standard false = .ok solution ∧
      plays (.fresh twoLimits Settings.standard true) crossedWalks = .ok played ∧
        (∃ final, final.choice = none ∧
          played.yields "a" = solution.history.filter (·.choice.isSome) ++ [final]) ∧
        (∃ walked, played.session.drain "b" = .ok walked ∧
          walked.session.walk "b" = .ok .over) ∧
        ∃ session log, played.session.solve = .ok (session, solution, log) := by
  have means : (Quantity.whole 80 : Quantity Rat).Means 80 := rfl
  obtain ⟨solution, played, answer, made, walks, solved, -⟩ :=
    walks_do_not_interfere validate_twoLimits limit_twoLimits means true
      (show isScheduled [] crossedWalks = true by decide)
  have found : (plays (.fresh twoLimits Settings.standard true) crossedWalks).toOption.map
      (fun played => (played.session.walks.lookup "a", played.session.walks.lookup "b")) =
        some (some .over, some (.suspended 1)) := by decide +kernel
  have shown := eq_of_seen made found
  obtain ⟨ended, waits⟩ := Prod.mk.inj shown
  have first : played.session.walk "a" = .ok .over := by simp only [Session.walk, ended]
  have second : played.session.walk "b" = .ok (.suspended 1) := by
    simp only [Session.walk, waits]
  obtain ⟨-, all, -⟩ := walks "a" .over first
  obtain ⟨-, -, further⟩ := walks "b" (.suspended 1) second
  exact ⟨solution, played, answer, made, all rfl, further, solved⟩

end Problem

end SimplexSolver
