import SimplexSolver.Proofs.Interleaving

/-!
# When a shared session shows the right solution

A walk that comes to its end ends the latest run of its session, and the session shows the
solution of that run. If the run is another walk's, the solution is read off a tableau that
the run happens to stand in, and it gives the status of a solve that went further; if the
run was ended before, its history gets a second final record. So what a session shows need
not be the solution of the problem, although every walk yields the right records.

Whatever the schedule, the solution that is shown gives the right reason for stopping, and
its values are those of the tableau after as many pivots as its history has
(`Lone.Shares`). It is the solution of the lone solve as long as every walk that comes to
its end finds the session without a solution, and either owns the latest run or finds it
with all its pivots made (`Orderly`). Then each run is at a stage of the lone solve
(`Staged`). The condition is not only sufficient: the first walk that breaks it makes the
session show something else (`onlyShows_iff_orderly`).
-/

set_option autoImplicit false

namespace SimplexSolver

variable {α : Type} [Scalar α]

/-! ## Orderly schedules -/

/-- A walk may come to its end: the session shows no solution, and its latest run is
the walk's own or has made all pivots. -/
def Session.Clear (session : Session α) (pivots : Nat) (name : String) : Prop :=
  ∀ index, session.walk name = .ok (.suspended index) →
    session.solution? = none ∧
      (index + 1 = session.runs.length ∨ session.latest.iterations = pivots)

/-- No walk comes to its end when it may not, in a solve of so many pivots. -/
def Orderly (pivots : Nat) : List Move → Played α → Prop
  | [], _ => True
  | move :: rest, played => ∀ later, move.play played = .ok later →
      (∀ name, later.session.walk name = .ok .over → played.session.Clear pivots name) ∧
        Orderly pivots rest later

/-- The session shows no other solution than this one, at any point of the schedule. -/
def OnlyShows (solution : Solution α) (moves : List Move) (played : Played α) : Prop :=
  ∀ done rest, moves = done ++ rest → ∀ reached, plays played done = .ok reached →
    ∀ shown, reached.session.solution? = some shown → shown = solution

variable {problem : Problem α} {settings : Settings α} (lone : Lone problem settings)

/-- The run is at a stage of the lone solve: under way or ended. -/
def Run.IsStage (run : Run α) : Prop :=
  (run.iterations ≤ lone.total ∧ run = lone.runAfter run.iterations) ∨
    run = lone.runAfter (lone.total + 1)

/-- Every run is at a stage of the lone solve. -/
def Staged (session : Session α) : Prop := ∀ run ∈ session.runs, run.IsStage lone

/-- The session shows a solution that the lone solve does not have. -/
def Misleads (session : Session α) : Prop :=
  ∃ shown, session.solution? = some shown ∧ shown ≠ lone.solution

variable {lone}

/-! ## The latest run -/

namespace Session

variable {session : Session α} {index : Nat} {run : Run α}

theorem latest_eq_of_last (owned : session.runs[index]? = some run)
    (last : index + 1 = session.runs.length) : session.latest = run := by
  have latest := getElem?_latest owned
  rw [← last, Nat.add_sub_cancel, owned, Option.some.injEq] at latest
  exact latest.symm

/-- The latest run after one of the runs was replaced. -/
theorem latest_set (owned : session.runs[index]? = some run) (fresh : Run α) :
    Session.latest { session with runs := session.runs.set index fresh } =
      if index + 1 = session.runs.length then fresh else session.latest := by
  have inside : index < session.runs.length := (List.getElem?_eq_some_iff.mp owned).1
  simp only [latest, List.getLastD_eq_getLast?, List.getLast?_eq_getElem?, List.length_set,
    List.getElem?_set]
  by_cases last : index + 1 = session.runs.length
  · rw [if_pos last, if_pos (by omega), if_pos inside]
    rfl
  · rw [if_neg last, if_neg (by omega)]

/-- Replacing the latest run. -/
theorem latest_setLatest (owned : session.runs[index]? = some run) (fresh : Run α) :
    (session.setLatest fresh).latest = fresh := by
  have latest := getElem?_latest owned
  have inside := (List.getElem?_eq_some_iff.mp latest).1
  exact (latest_set latest fresh).trans (if_pos (by omega))

/-- The solution that is shown is that of one of the runs. -/
theorem exists_mem_of_solution {shown : Solution α} (solved : session.solution? = some shown) :
    ∃ run ∈ session.runs, run.solution = some shown := by
  cases empty : session.runs with
  | nil =>
      rw [solution?, latest, empty] at solved
      cases solved
  | cons first rest =>
      refine ⟨session.latest, ?_, solved⟩
      rw [latest, empty, List.getLastD_cons]
      exact List.getLastD_mem_cons

end Session

/-! ## Stages -/

theorem isStage_started : (Run.started lone.start).IsStage lone :=
  .inl ⟨Nat.zero_le _, lone.runAfter_zero.symm⟩

namespace Staged

variable {session : Session α} {index : Nat} {run : Run α}

/-- A run that is begun, or made at once. -/
theorem begin (staged : Staged lone session) (stage : run.IsStage lone) :
    Staged lone (session.begin run) :=
  List.forall_mem_append.mpr ⟨staged, List.forall_mem_singleton.mpr stage⟩

/-- A session whose runs are at stages of the lone solve shows its solution. -/
theorem eq_of_solution (staged : Staged lone session) {shown : Solution α}
    (solved : session.solution? = some shown) : shown = lone.solution := by
  obtain ⟨run, member, answer⟩ := Session.exists_mem_of_solution solved
  obtain ⟨inside, stage⟩ | rfl := staged run member
  · rw [stage, lone.runAfter_of_le inside] at answer
    cases answer
  · rw [lone.runAfter_end] at answer
    exact (Option.some.inj answer).symm

/-- The next pivot leads from a stage to the next one. -/
theorem pivoted (staged : Staged lone session) {record : Record α} {next : Tableau α}
    (owned : session.runs[index]? = some run) (before : run.iterations < lone.total)
    (recorded : lone.result.records[run.iterations]? = some record)
    (there : lone.tableauAt (run.iterations + 1) = some next) :
    Staged lone { session with runs := session.runs.set index (run.pivoted record next) } := by
  refine forall_mem_set staged ?_ index
  obtain ⟨-, stage⟩ | rfl := staged run (List.mem_of_getElem? owned)
  · have further := lone.pivoted_runAfter before recorded there
    rw [← stage] at further
    exact .inl ⟨before, further⟩
  · rw [lone.runAfter_end] at before
    exact absurd before (lt_irrefl _)

/-- The run that may be ended has made all pivots and is not ended. -/
theorem latest_eq (staged : Staged lone session) (owned : session.runs[index]? = some run)
    (all : run.iterations = lone.total) (unsolved : session.solution? = none)
    (clear : index + 1 = session.runs.length ∨ session.latest.iterations = lone.total) :
    session.latest = lone.runAfter lone.total := by
  have count : session.latest.iterations = lone.total := by
    rcases clear with last | count
    · rw [Session.latest_eq_of_last owned last, all]
    · exact count
  obtain ⟨-, stage⟩ | ended := staged _ (List.mem_of_getElem? (Session.getElem?_latest owned))
  · rwa [count] at stage
  · rw [Session.solution?, ended, lone.runAfter_end] at unsolved
    cases unsolved

/-- Ending a run that may be ended leads to the last stage. -/
theorem ended (staged : Staged lone session) {last : Run α} {record : Record α}
    (finished : session.latest.finished lone.result.status lone.result.message =
      .ok (last, record))
    (latest : session.latest = lone.runAfter lone.total) :
    Staged lone (session.setLatest last) := by
  rw [latest, lone.finished_runAfter, Except.ok.injEq, Prod.mk.injEq] at finished
  exact forall_mem_set staged (.inr finished.1.symm) _

/-- Ending a run that may not be ended makes the session show a history of another
length. -/
theorem misleads (staged : Staged lone session) (sound : ∀ run ∈ session.runs, run.Follows lone)
    (owned : session.runs[index]? = some run) {last : Run α} {record : Record α}
    (finished : session.latest.finished lone.result.status lone.result.message =
      .ok (last, record))
    (other : session.latest ≠ lone.runAfter lone.total) :
    Misleads lone (session.setLatest last) := by
  have member := List.mem_of_getElem? (Session.getElem?_latest owned)
  obtain ⟨tableau, shown, -, answer, made⟩ :=
    (sound _ member).stands.exists_finished lone.result.status lone.result.message
  rw [finished, Except.ok.injEq, Prod.mk.injEq] at made
  have solution : last.solution = some shown := by rw [made.1]
  refine ⟨shown, ?_, fun same => ?_⟩
  · rw [Session.solution?, Session.latest_setLatest owned, solution]
  have history := (Solution.parts_of_atTableau answer).2.2.1
  have length := congrArg List.length history
  rw [same, lone.history_eq, lone.length_records, List.length_append, List.length_singleton]
    at length
  obtain ⟨inside, stage⟩ | ended := staged _ member
  · rw [stage, lone.runAfter_of_le inside, List.length_take] at length
    have all : session.latest.iterations = lone.total := by
      have fits : min session.latest.iterations lone.result.records.length =
        session.latest.iterations := Nat.min_eq_left inside
      omega
    rw [all] at stage
    exact other stage
  · rw [ended, lone.runAfter_end, lone.length_records] at length
    omega

end Staged

/-! ## Steps of a walk -/

section Moved

variable {played later : Played α} {name : String}

/-- Advancing a walk does not touch the others. -/
theorem Moved.walk_of_ne (moved : Moved lone name played later) {other : String}
    (different : other ≠ name) :
    later.session.walk other = played.session.walk other := by
  induction moved with
  | rested _ => exact Session.walk_setWalk_of_ne _ different _
  | stepped here made =>
      refine (Session.walk_setWalk_of_ne _ different _).trans ?_
      cases made <;> rfl
  | begun waiting _ ih =>
      exact ih.trans (Session.walk_setWalk_of_ne _ different _)

/-- A walk that was advanced is suspended or over. -/
theorem Moved.walk_cases (moved : Moved lone name played later) :
    later.session.walk name = .ok .over ∨
      ∃ index, later.session.walk name = .ok (.suspended index) := by
  induction moved with
  | rested _ => exact .inl (Session.walk_setWalk_self _ name _)
  | stepped here made =>
      cases made with
      | pivoted => exact .inr ⟨_, Session.walk_setWalk_self _ name _⟩
      | ended => exact .inl (Session.walk_setWalk_self _ name _)
  | begun waiting _ ih => exact ih

/-- A walk that is over stays so, and no run changes. -/
theorem Moved.of_over (moved : Moved lone name played later)
    (atEnd : played.session.walk name = .ok .over) :
    later.session.walk name = .ok .over ∧ later.session.runs = played.session.runs := by
  cases moved with
  | rested _ => exact ⟨Session.walk_setWalk_self _ name _, rfl⟩
  | stepped here _ =>
      rw [atEnd] at here
      cases here
  | begun waiting _ =>
      rw [atEnd] at waiting
      cases waiting

/-- What a walk needs for its end, if it owns a run. -/
theorem Session.clear_iff {session : Session α} {pivots index : Nat}
    (here : session.walk name = .ok (.suspended index)) :
    session.Clear pivots name ↔ session.solution? = none ∧
      (index + 1 = session.runs.length ∨ session.latest.iterations = pivots) := by
  constructor
  · intro clear
    exact clear index here
  · intro clear other there
    rw [here, Except.ok.injEq, Walk.suspended.injEq] at there
    exact there ▸ clear

/-- Nothing is asked of a walk that owns no run. -/
theorem Session.clear_of_free {session : Session α} {walk : Walk} (pivots : Nat)
    (here : session.walk name = .ok walk) (free : ∀ index, walk ≠ .suspended index) :
    session.Clear pivots name := by
  intro index there
  rw [here, Except.ok.injEq] at there
  exact absurd there (free index)

/-- A walk that just began its run may come to its end. -/
theorem Session.clear_begun (played : Played α) (pivots : Nat) (tableau : Tableau α) :
    (played.begun name (Run.started tableau)).session.Clear pivots name := by
  have here : (played.begun name (Run.started tableau)).session.walk name =
      .ok (.suspended played.session.runs.length) :=
    Session.walk_setWalk_self _ name _
  refine (Session.clear_iff here).mpr ⟨?_, .inl ?_⟩
  · change ((played.session.runs ++ [Run.started tableau]).getLastD Run.idle).solution = none
    rw [List.getLastD_concat]
    rfl
  · change played.session.runs.length + 1 = (played.session.runs ++ [Run.started tableau]).length
    rw [List.length_append, List.length_singleton]

/-- A pivot in the run of a walk keeps the solution that is shown, and it changes the count
of the latest run only if that is the walk's own. -/
theorem Session.clear_pivoted {session : Session α} {index : Nat} {run : Run α}
    (here : session.walk name = .ok (.suspended index)) (owned : session.runs[index]? = some run)
    (record : Record α) (next : Tableau α) (pivots : Nat) :
    (Session.setWalk { session with runs := session.runs.set index (run.pivoted record next) }
      name (.suspended index)).Clear pivots name ↔ session.Clear pivots name := by
  rw [clear_iff here, clear_iff (walk_setWalk_self _ name _)]
  have latest := latest_set owned (run.pivoted record next)
  change (Session.latest { session with
      runs := session.runs.set index (run.pivoted record next) }).solution = none ∧
    (index + 1 = (session.runs.set index (run.pivoted record next)).length ∨
      (Session.latest { session with
        runs := session.runs.set index (run.pivoted record next) }).iterations = pivots) ↔ _
  rw [latest, List.length_set]
  by_cases last : index + 1 = session.runs.length
  · rw [if_pos last, solution?, latest_eq_of_last owned last]
    exact and_congr_right fun _ => iff_of_true (.inl last) (.inl last)
  · rw [if_neg last]
    rfl

/-- Pivots of a walk do not change whether it may come to its end. -/
theorem Moved.clear_iff (moved : Moved lone name played later) {index pivots : Nat}
    (there : later.session.walk name = .ok (.suspended index)) :
    later.session.Clear pivots name ↔ played.session.Clear pivots name := by
  induction moved with
  | rested _ =>
      rw [Played.after, Session.walk_setWalk_self] at there
      cases there
  | @begun played later waiting _ ih =>
      rw [ih there]
      exact iff_of_true (Session.clear_begun played pivots _)
        (Session.clear_of_free pivots waiting fun _ => Walk.noConfusion)
  | @stepped played index moved here made =>
      cases made with
      | ended =>
          rw [Played.after, Session.walk_setWalk_self] at there
          cases there
      | pivoted log owned => exact Session.clear_pivoted here owned _ _ pivots

/-- A step keeps the stages, unless the walk comes to an end that it may not come to. -/
theorem Staged.moved (staged : Staged lone played.session) (moved : Moved lone name played later)
    (clear : later.session.walk name = .ok .over → played.session.Clear lone.total name) :
    Staged lone later.session := by
  induction moved with
  | rested _ => exact staged
  | @stepped played index moved here made =>
      cases made with
      | pivoted log owned before recorded there =>
          exact staged.pivoted owned before recorded there
      | ended log owned all finished =>
          obtain ⟨unsolved, may⟩ := clear (Session.walk_setWalk_self _ name _) index here
          exact staged.ended finished (staged.latest_eq owned all unsolved may)
  | @begun played later waiting _ ih =>
      exact ih (staged.begin isStage_started)
        fun _ => Session.clear_begun played lone.total lone.start

/-- A walk that comes to an end that it may not come to misleads. -/
theorem Staged.misleads_moved (staged : Staged lone played.session) (sound : Sound lone played)
    (moved : Moved lone name played later) (atEnd : later.session.walk name = .ok .over)
    (unclear : ¬ played.session.Clear lone.total name) : Misleads lone later.session := by
  cases moved with
  | rested rests =>
      exact absurd (Session.clear_of_free _ rests fun _ => Walk.noConfusion) unclear
  | begun waiting _ =>
      exact absurd (Session.clear_of_free _ waiting fun _ => Walk.noConfusion) unclear
  | @stepped _ index moved here made =>
      cases made with
      | pivoted =>
          rw [Played.after, Session.walk_setWalk_self] at atEnd
          cases atEnd
      | @ended run last record log owned all finished =>
          refine staged.misleads sound.follows owned finished fun latest => unclear ?_
          refine (Session.clear_iff here).mpr ?_
          rw [Session.solution?, latest, lone.runAfter_of_le le_rfl]
          exact ⟨rfl, .inr rfl⟩

end Moved

/-! ## Moves -/

section Moves

variable {played later : Played α} {name : String}

theorem moves_of_over (steps : Relation.ReflTransGen (Moved lone name) played later)
    (atEnd : played.session.walk name = .ok .over) :
    later.session.walk name = .ok .over ∧ later.session.runs = played.session.runs := by
  induction steps with
  | refl => exact ⟨atEnd, rfl⟩
  | tail _ step ih =>
      obtain ⟨still, same⟩ := step.of_over ih.1
      exact ⟨still, same.trans ih.2⟩

theorem walk_of_moves (steps : Relation.ReflTransGen (Moved lone name) played later)
    {other : String} (different : other ≠ name) :
    later.session.walk other = played.session.walk other := by
  induction steps with
  | refl => rfl
  | tail _ step ih => exact (step.walk_of_ne different).trans ih

/-- All steps of a walk together keep the stages if the walk does not come to its
end, or may come to it when the first of them is made; otherwise they mislead. -/
theorem Staged.moves (staged : Staged lone played.session) (sound : Sound lone played)
    (steps : Relation.ReflTransGen (Moved lone name) played later) :
    ((later.session.walk name = .ok .over → played.session.Clear lone.total name) →
      Staged lone later.session) ∧
      (later.session.walk name = .ok .over → ¬ played.session.Clear lone.total name →
        Misleads lone later.session) := by
  induction steps using Relation.ReflTransGen.head_induction_on with
  | refl =>
      refine ⟨fun _ => staged, fun atEnd unclear => absurd ?_ unclear⟩
      exact Session.clear_of_free _ atEnd fun _ => Walk.noConfusion
  | @head played middle step rest ih =>
      rcases step.walk_cases with atEnd | ⟨index, here⟩
      -- the end is here, and nothing happens afterwards
      · obtain ⟨ended, runs⟩ := moves_of_over rest atEnd
        constructor
        · intro clear
          have reached := staged.moved step fun _ => clear ended
          rwa [Staged, ← runs] at reached
        · intro _ unclear
          obtain ⟨shown, solved, wrong⟩ := staged.misleads_moved sound step atEnd unclear
          refine ⟨shown, ?_, wrong⟩
          rwa [Session.solution?, Session.latest, ← runs] at solved
      -- the walk has made a pivot and goes on
      · have reached := staged.moved step fun atEnd => by
          rw [here] at atEnd
          cases atEnd
        have further := ih reached (sound.moved step)
        rwa [step.clear_iff here] at further

/-- One move keeps the stages, or it misleads. -/
theorem Staged.shifted (staged : Staged lone played.session) (sound : Sound lone played)
    (shifted : Shifted lone played later) :
    ((∀ name, later.session.walk name = .ok .over → played.session.Clear lone.total name) →
      Staged lone later.session) ∧
      ((¬ ∀ name, later.session.walk name = .ok .over → played.session.Clear lone.total name) →
        Misleads lone later.session) := by
  have rests : ∀ name, played.session.walk name = .ok .over →
      played.session.Clear lone.total name :=
    fun name atEnd => Session.clear_of_free _ atEnd fun _ => Walk.noConfusion
  cases shifted with
  | opened opened =>
      refine ⟨fun _ => staged, fun unclear => absurd ?_ unclear⟩
      intro name atEnd
      by_cases same : name = opened
      · rw [same, Session.openWalk, Session.walk_setWalk_self] at atEnd
        cases atEnd
      · rw [Session.openWalk, Session.walk_setWalk_of_ne _ same] at atEnd
        exact rests name atEnd
  | solved =>
      exact ⟨fun _ => staged.begin (.inr rfl), fun unclear => absurd rests unclear⟩
  | @walked walked _ steps =>
      obtain ⟨keeps, misleads⟩ := staged.moves sound steps
      refine ⟨fun clear => keeps (clear walked), fun unclear => ?_⟩
      have unclear : later.session.walk walked = .ok .over ∧
          ¬ played.session.Clear lone.total walked := by
        by_contra clear
        refine unclear fun name atEnd => ?_
        by_cases same : name = walked
        · subst same
          exact by_contra fun wrong => clear ⟨atEnd, wrong⟩
        · exact rests name (walk_of_moves steps same ▸ atEnd)
      exact misleads unclear.1 unclear.2

end Moves

/-! ## Whole schedules -/

section Schedules

variable {played : Played α}

/-- What is shown during a schedule: what is there before its first move, and what is shown
during the rest. -/
theorem onlyShows_cons {solution : Solution α} {move : Move} {rest : List Move}
    {next : Played α} (made : move.play played = .ok next)
    (before : ∀ shown, played.session.solution? = some shown → shown = solution) :
    OnlyShows solution (move :: rest) played ↔ OnlyShows solution rest next := by
  constructor
  · intro shows done more split reached made_done
    refine shows (move :: done) more (congrArg (move :: ·) split) reached ?_
    rwa [plays_cons made]
  · intro shows done more split reached made_done
    cases done with
    | nil =>
        obtain rfl := Except.ok.inj made_done
        exact before
    | cons first done =>
        rw [List.cons_append, List.cons.injEq] at split
        obtain ⟨rfl, split⟩ := split
        rw [plays_cons made] at made_done
        exact shows done more split reached made_done

/-- **A session shows only the solution of the lone solve if and only if the schedule is
orderly**, as long as it starts with runs at stages of that solve. -/
theorem onlyShows_iff_orderly (moves : List Move) (started : List String)
    (scheduled : isScheduled started moves = true)
    (known : ∀ name ∈ started, played.session.Knows name) (sound : Sound lone played)
    (staged : Staged lone played.session) :
    OnlyShows lone.solution moves played ↔ Orderly lone.total moves played := by
  induction moves generalizing started played with
  | nil =>
      refine iff_of_true (fun done rest split reached made => ?_) trivial
      obtain ⟨rfl, -⟩ := List.append_eq_nil_iff.mp split.symm
      obtain rfl := Except.ok.inj made
      exact fun shown => staged.eq_of_solution
  | cons move rest ih =>
      obtain ⟨next, made, shifted, scheduled, known⟩ := sound.play_scheduled scheduled known
      obtain ⟨keeps, misleads⟩ := staged.shifted sound shifted
      have orderly : Orderly lone.total (move :: rest) played ↔
          (∀ name, next.session.walk name = .ok .over → played.session.Clear lone.total name) ∧
            Orderly lone.total rest next := by
        constructor
        · exact fun all => all next made
        · intro here later again
          rw [made, Except.ok.injEq] at again
          exact again ▸ here
      rw [onlyShows_cons made fun shown => staged.eq_of_solution, orderly]
      by_cases clear : ∀ name, next.session.walk name = .ok .over →
          played.session.Clear lone.total name
      · rw [ih _ scheduled known (sound.shifted shifted) (keeps clear)]
        exact (and_iff_right clear).symm
      -- the first walk that breaks the order is seen right after this move
      · refine iff_of_false (fun shows => ?_) fun both => clear both.1
        obtain ⟨shown, solved, wrong⟩ := misleads clear
        exact wrong (shows [] rest rfl next rfl shown solved)

end Schedules

namespace Problem

/-- **What a shared session shows.** Let moves be made with a session of an accepted problem
whose limit stands for a number, in any order in which every walk is started before it is
advanced. A solution that the session shows gives the status and the message of the lone
solve, its pivots are the first ones of that solve, and it is read off the tableau that they
lead to. It is the solution of the lone solve at every point of the schedule if and only if
every walk that comes to its end finds the session without a solution, and owns the latest
run or finds it with all its pivots made. -/
theorem shown_solution_iff_orderly {problem : Problem α} {settings : Settings α} {count : Count}
    {limit : Quantity α} {number : Rat} (valid : problem.validate = .ok count)
    (limited : settings.limit count.toInt problem.constraints.length = .ok limit)
    (means : limit.Means number) (hasSwitch : Bool) {moves : List Move}
    (scheduled : isScheduled [] moves = true) :
    ∃ solution played, problem.solve settings false = .ok solution ∧
      plays (.fresh problem settings hasSwitch) moves = .ok played ∧
        (∀ shown, played.session.solution? = some shown →
          shown.status = solution.status ∧ shown.message = solution.message ∧
            shown.history.filter (·.choice.isSome) =
              (solution.history.filter (·.choice.isSome)).take shown.iterations ∧
            ∃ tableau, problem.tableauAt settings shown.iterations = some tableau ∧
              Solution.atTableau tableau solution.status solution.message shown.history =
                .ok shown) ∧
        (OnlyShows solution moves (.fresh problem settings hasSwitch) ↔
          Orderly solution.iterations moves (.fresh problem settings hasSwitch)) := by
  obtain ⟨lone, -⟩ := exists_lone valid limited means
  have start : Sound lone (.fresh problem settings hasSwitch) := sound_fresh hasSwitch
  obtain ⟨played, made, sound⟩ :=
    start.exists_plays moves [] scheduled fun name member => by cases member
  refine ⟨lone.solution, played, lone.solve_eq, made, ?_, ?_⟩
  · intro shown solved
    obtain ⟨run, member, answer⟩ := Session.exists_mem_of_solution solved
    obtain ⟨pivots, tableau, here, read⟩ := (sound.follows run member).answer shown answer
    obtain ⟨status, message, -, -⟩ := Solution.parts_of_atTableau read
    rw [lone.filter_history, lone.status_eq, lone.message_eq]
    exact ⟨status, message, pivots, tableau, (lone.tableauAt_eq _).trans here, read⟩
  · rw [lone.iterations_eq]
    exact onlyShows_iff_orderly moves [] scheduled (fun name member => by cases member) start
      fun run member => by cases member

/-- What is shown when the first of two crossed walks has come to its end: the status is
that of the solve, and the point is the one after its first pivot. -/
theorem exists_shown_crossedWalks :
    ∃ solution played shown, twoLimits.solve Settings.standard false = .ok solution ∧
      plays (.fresh twoLimits Settings.standard true) crossedWalks = .ok played ∧
        played.session.solution? = some shown ∧
          (solution.status = .optimal ∧ solution.decision = [2, 2] ∧ solution.slack = [0, 0] ∧
            solution.objective = 10 ∧ solution.history.length = 3) ∧
          shown.status = .optimal ∧ shown.decision = [2, 0] ∧ shown.slack = [2, 0] ∧
            shown.objective = 6 ∧ shown.history.length = 2 := by
  have lone : (twoLimits.solve Settings.standard false).toOption.map (fun solution =>
      (solution.status, solution.decision, solution.slack, solution.objective,
        solution.history.length)) = some (.optimal, [2, 2], [0, 0], 10, 3) := by decide +kernel
  have shared : ((plays (.fresh twoLimits Settings.standard true) crossedWalks).toOption.bind
      (·.session.solution?)).map (fun shown => (shown.status, shown.decision, shown.slack,
        shown.objective, shown.history.length)) = some (.optimal, [2, 0], [2, 0], 6, 2) := by
    decide +kernel
  obtain ⟨solution, answer, reported⟩ := Option.map_eq_some_iff.mp lone
  obtain ⟨shown, solved, seen⟩ := Option.map_eq_some_iff.mp shared
  obtain ⟨played, made, solved⟩ := Option.bind_eq_some_iff.mp solved
  simp only [Prod.mk.injEq] at reported seen
  exact ⟨solution, played, shown, ok_of_toOption answer, ok_of_toOption made, solved, reported,
    seen⟩

/-- **A session may show an optimum that is none.** Two walks of one session are crossed, no
move fails, and the session shows another point, another value and another history than the
lone solve, with the status of the lone solve. -/
theorem crossedWalks_mislead :
    isScheduled [] crossedWalks = true ∧
      ∃ solution played shown, twoLimits.solve Settings.standard false = .ok solution ∧
        plays (.fresh twoLimits Settings.standard true) crossedWalks = .ok played ∧
          played.session.solution? = some shown ∧ shown.status = .optimal ∧
            shown.decision ≠ solution.decision ∧ shown.slack ≠ solution.slack ∧
              shown.objective ≠ solution.objective ∧
                shown.history.length ≠ solution.history.length := by
  obtain ⟨solution, played, shown, answer, made, solved, ⟨-, decision, slack, worth, records⟩,
    optimal, decision', slack', worth', records'⟩ := exists_shown_crossedWalks
  refine ⟨by decide, solution, played, shown, answer, made, solved, optimal, ?_⟩
  rw [decision, decision', slack, slack', worth, worth', records, records']
  decide +kernel

/-- The crossed walks are not orderly, since the session shows another point. -/
theorem shown_solution_iff_orderly_twoLimits :
    ∃ solution, twoLimits.solve Settings.standard false = .ok solution ∧
      ¬ Orderly solution.iterations crossedWalks (.fresh twoLimits Settings.standard true) := by
  have means : (Quantity.whole 80 : Quantity Rat).Means 80 := rfl
  obtain ⟨solution, played, answer, made, -, shows⟩ :=
    shown_solution_iff_orderly validate_twoLimits limit_twoLimits means true
      (show isScheduled [] crossedWalks = true by decide)
  refine ⟨solution, answer, fun orderly => ?_⟩
  obtain ⟨again, reached, shown, same, seen, solved, ⟨-, decision, -⟩, -, point, -⟩ :=
    exists_shown_crossedWalks
  rw [answer, Except.ok.injEq] at same
  have right := shows.mpr orderly crossedWalks [] rfl reached seen shown solved
  rw [right, same, decision] at point
  exact absurd point (by decide +kernel)

end Problem

end SimplexSolver
