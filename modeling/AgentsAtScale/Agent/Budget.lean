import AgentsAtScale.Agent.Invocations

namespace AgentsAtScale.Agent.Python

open Airline Program StateGraph
open Jobs (Json AgentError)

def Keeps (task : Task NodeOutcome) : Prop :=
  ∀ calls, task.wp trace (fun _ outcome => ∀ update, outcome = .update update →
    update.retryCount = none ∧ update.maxRetries = none) calls

namespace Keeps

theorem call {o : Op} {f : o.Reply → Task NodeOutcome} (h : ∀ reply, Keeps (f reply)) :
    Keeps (Prog.call o >>= f) :=
  fun _ => wp_trace_call.mpr fun reply => h reply _

theorem raise {exc : Exception} : Keeps (pure (.raise exc)) := by
  intro _ _ h
  cases h

theorem interrupt {payload : Interrupt} : Keeps (pure (.interrupt payload)) := by
  intro _ _ h
  cases h

theorem update {update : AgentState} (hcount : update.retryCount = none)
    (hmax : update.maxRetries = none) : Keeps (Python.update update) := by
  rintro _ _ ⟨⟩
  exact ⟨hcount, hmax⟩

end Keeps

section

variable {modelValidate : Json → Except String Selection} {values : AgentState}

theorem keeps_understandRequest : Keeps (understandRequest values) := by
  unfold understandRequest
  dsimp only
  split
  · exact .raise
  · refine .call fun reply => ?_
    split
    · exact .raise
    · split
      · exact .raise
      · exact .update rfl rfl

theorem keeps_getReservation : Keeps (getReservation values) := by
  unfold getReservation
  split
  · exact .raise
  · refine .call fun reply => ?_
    split
    · exact .raise
    · split
      · exact .raise
      · exact .update rfl rfl

theorem keeps_searchAlternatives : Keeps (searchAlternatives values) := by
  unfold searchAlternatives
  split
  · exact .raise
  · split
    · exact .raise
    · split
      · exact .raise
      · refine .call fun reply => ?_
        split
        · exact .raise
        · exact .update rfl rfl

theorem keeps_getTravelCredits : Keeps (getTravelCredits values) := by
  unfold getTravelCredits
  split
  · exact .raise
  · refine .call fun reply => ?_
    split
    · exact .raise
    · exact .update rfl rfl

theorem keeps_evaluateOptions : Keeps (evaluateOptions values) := by
  unfold evaluateOptions
  split
  · refine .call fun reply => ?_
    split
    · exact .raise
    · split
      · exact .raise
      · exact .update rfl rfl
  · exact .raise

theorem keeps_askConfirmation {answer : Option Json} :
    Keeps (askConfirmation modelValidate values answer) := by
  unfold askConfirmation
  split
  · exact .raise
  · split
    · exact .interrupt
    · split
      · exact .raise
      · exact .update rfl rfl

theorem keeps_validateChange : Keeps (validateChange values) := by
  unfold validateChange
  split
  · exact .raise
  · split
    · exact .update rfl rfl
    · split
      · exact .raise
      · dsimp only
        split
        · exact .update rfl rfl
        · split
          · exact .update rfl rfl
          · refine .call fun reply => ?_
            split
            · split
              · exact .update rfl rfl
              · exact .raise
            · exact .update rfl rfl
            · exact .update rfl rfl

theorem keeps_executeRebooking : Keeps (executeRebooking values) := by
  unfold executeRebooking
  split
  · refine .call fun reply => ?_
    split
    · exact .update rfl rfl
    · exact .update rfl rfl
  · exact .raise

theorem keeps_verifyRebooking : Keeps (verifyRebooking values) := by
  unfold verifyRebooking
  split
  · split
    · exact .raise
    · refine .call fun reply => ?_
      split
      · exact .update rfl rfl
      · exact .update rfl rfl
  · exact .raise

theorem keeps_run {node : Node} (hnode : node ≠ .explainInvalidChange) (values : AgentState)
    (answer : Option Json) : Keeps ((graph modelValidate).run node values answer) := by
  cases node with
  | explainInvalidChange => contradiction
  | understandRequest => exact keeps_understandRequest
  | getReservation => exact keeps_getReservation
  | searchAlternatives => exact keeps_searchAlternatives
  | getTravelCredits => exact keeps_getTravelCredits
  | refreshContext => exact .update rfl rfl
  | evaluateOptions => exact keeps_evaluateOptions
  | askConfirmation => exact keeps_askConfirmation
  | validateChange => exact keeps_validateChange
  | executeRebooking => exact keeps_executeRebooking
  | verifyRebooking => exact keeps_verifyRebooking
  | finalizeFailed => exact .update rfl rfl
  | finalizeDeclined => exact .update rfl rfl

end

def asking : List (List Node) :=
  [[.understandRequest], [.getReservation], [.refreshContext],
    [.searchAlternatives, .getTravelCredits], [.evaluateOptions], [.askConfirmation]]

structure Asking (r : Run) : Prop where
  answer : r.phase = .running → r.answer = none
  next : r.phase = .running → r.thread.next ∈ asking
  unexplained : .explainInvalidChange ∉ r.visited

def raised : Sigma Op.Reply → Option Exception
  | ⟨.searchRebookingOptions _, .error exc⟩ => some exc
  | ⟨.getAvailableTravelCredits _ _, .error exc⟩ => some exc
  | ⟨.evaluateOptions _ _ _, .error exc⟩ => some exc
  | ⟨.evaluateOptions _ options _, .ok result⟩ =>
    if !result.rankedOptionIds.all (allowedIds options).contains then
      some { message := "evaluation returned an unknown option", valueError := true }
    else none
  | _ => none

inductive Place (r : Run) : Prop
  | refreshContext (context : Context) (segment : ReservationSegmentDetails)
      (next : r.thread.next = [.refreshContext]) (chosen : Chosen r.thread.values context segment)
  | gather (context : Context) (segment : ReservationSegmentDetails)
      (next : r.thread.next = [.searchAlternatives, .getTravelCredits])
      (chosen : Chosen r.thread.values context segment)
  | evaluateOptions (context : Context) (segment : ReservationSegmentDetails)
      (search : SearchAlternativesResult (Option UUID)) (credits : TravelCreditsResult (Option UUID))
      (next : r.thread.next = [.evaluateOptions]) (chosen : Chosen r.thread.values context segment)
      (searched : r.thread.values.searchResult = some search)
      (credited : r.thread.values.creditsResult = some credits)
  | askConfirmation (evaluation : Evaluation) (next : r.thread.next = [.askConfirmation])
      (answer : r.answer = none) (shown : r.thread.values.evaluation = some evaluation)

structure Returning (r : Run) : Prop where
  phase : r.phase ≠ .ended
  running : r.phase = .running → Place r
  failed : ∀ exc, r.phase = .failed exc → ∃ call ∈ r.calls, raised call = some exc

structure Failed (r : Run) : Prop where
  phase : r.phase = .ended
  final : ∃ final, r.thread.values.final = some final ∧ final.status = .failed

structure Budget (spent bound : Int) (r : Run) : Prop where
  bound_eq : r.thread.values.maxRetries = some bound
  count : r.thread.values.retryCount.getD 0 =
    spent + if .explainInvalidChange ∈ r.visited then 1 else 0
  rejected : .explainInvalidChange ∈ r.visited →
    spent + 1 ≤ bound ∧ Returning r ∨ bound < spent + 1 ∧ Failed r

section

variable {modelValidate : Json → Except String Selection} {r : Run} {spent bound : Int}

theorem asking_successors {values : AgentState} {nodes nodes' : List Node} (h : nodes ∈ asking)
    (hnodes : nodes ≠ [.askConfirmation])
    (hsuccessors : (graph modelValidate).successors values nodes = .ok nodes') : nodes' ∈ asking := by
  simp only [asking, List.mem_cons, List.not_mem_nil, or_false] at h
  have hmem {nodes : List Node} (n : Nat) (hn : asking[n]? = some nodes) : nodes ∈ asking :=
    List.mem_of_getElem? hn
  obtain rfl | rfl | rfl | rfl | rfl | rfl := h
  · cases hsuccessors
    exact hmem 1 rfl
  · cases hsuccessors
    exact hmem 3 rfl
  · cases hsuccessors
    exact hmem 3 rfl
  · cases hsuccessors
    exact hmem 4 rfl
  · cases hsuccessors
    exact hmem 5 rfl
  · contradiction

theorem askConfirmation_pauses {values : AgentState} {calls : Calls} :
    ((graph modelValidate).runAll values none [.askConfirmation]).wp trace
      (fun _ result => ∀ update, result ≠ .ok (.ok update)) calls := by
  apply wp_runAll_single
  change (askConfirmation modelValidate values none).wp trace _ _
  unfold askConfirmation
  split
  · rintro _ ⟨⟩
  · rintro _ ⟨⟩

theorem Asking.round (h : Asking r) (hphase : r.phase = .running) (env : Env) :
    Asking (r.round (graph modelValidate) env) := by
  have hnodes : ∀ nodes ∈ asking, .explainInvalidChange ∉ nodes := by decide
  obtain ⟨calls, result, hround, hwp⟩ := Run.round_of_running (g := graph modelValidate) hphase env
  rw [hround]
  obtain ⟨_, hfinish⟩ | ⟨_, hfinish⟩ | ⟨update, nodes, hupdate, hsuccessors, hfinish⟩ :=
    Run.finish_cases (graph modelValidate) { r with calls := calls } result
  · rw [hfinish]
    exact ⟨nofun, nofun, h.unexplained⟩
  · rw [hfinish]
    exact ⟨nofun, nofun, h.unexplained⟩
  · rw [hfinish]
    have hask : r.thread.next ≠ [.askConfirmation] := by
      intro hnext
      rw [hnext, h.answer hphase] at hwp
      exact hwp _ askConfirmation_pauses update hupdate
    refine ⟨fun _ => rfl, fun _ => asking_successors (h.next hphase) hask hsuccessors, fun hmem => ?_⟩
    obtain hmem | hmem := List.mem_append.mp hmem
    · exact h.unexplained hmem
    · exact hnodes _ (h.next hphase) hmem

theorem Returning.fail {o : Op} {reply : o.Reply} {calls : Calls} {exc : Exception}
    (h : raised ⟨o, reply⟩ = some exc) : Returning (Run.fail { r with calls := calls ++ [⟨o, reply⟩] } exc) :=
  ⟨nofun, nofun, by rintro _ ⟨⟩; exact ⟨_, List.mem_concat_self, h⟩⟩

theorem Returning.advance {calls : Calls} {update : AgentState} {node : Node} {nodes : List Node}
    (hfinish : Run.finish (graph modelValidate) { r with calls := calls } (.ok (.ok update)) =
      { r with calls := calls }.advance (graph modelValidate) update (node :: nodes))
    (h : Place ({ r with calls := calls }.advance (graph modelValidate) update (node :: nodes))) :
    Returning (Run.finish (graph modelValidate) { r with calls := calls } (.ok (.ok update))) := by
  rw [hfinish]
  exact ⟨nofun, fun _ => h, nofun⟩

section

variable {context : Context} {segment : ReservationSegmentDetails}

theorem returning_refreshContext (hphase : r.phase = .running)
    (hnext : r.thread.next = [.refreshContext]) (hchosen : Chosen r.thread.values context segment)
    (env : Env) : Returning (r.round (graph modelValidate) env) := by
  refine Run.round_of_wp hphase ?_ env
  rw [hnext]
  apply wp_runAll_single
  exact .advance (finish_update (r := { r with calls := r.calls }) hnext rfl)
    (.gather context segment rfl (hchosen.merge rfl rfl))

theorem returning_gather (hphase : r.phase = .running)
    (hnext : r.thread.next = [.searchAlternatives, .getTravelCredits])
    (hchosen : Chosen r.thread.values context segment) (env : Env) :
    Returning (r.round (graph modelValidate) env) := by
  obtain ⟨window, hwindow⟩ := hchosen.window
  refine Run.round_of_wp hphase ?_ env
  rw [hnext]
  apply wp_runAll_cons
  change (searchAlternatives r.thread.values).wp trace _ _
  simp only [searchAlternatives, hchosen.loaded, hchosen.selected, hwindow]
  refine wp_trace_call.mpr fun reply => ?_
  cases reply with
  | error exc => exact .fail rfl
  | ok options =>
    apply wp_runAll_single
    change (getTravelCredits r.thread.values).wp trace _ _
    unfold getTravelCredits
    rw [hchosen.loaded]
    refine wp_trace_call.mpr fun reply => ?_
    cases reply with
    | error exc => exact .fail rfl
    | ok credits =>
      exact .advance (finish_gather (r := { r with calls := _ }) hnext)
        (.evaluateOptions context segment _ _ rfl (hchosen.merge rfl rfl) rfl rfl)

theorem returning_evaluateOptions {search : SearchAlternativesResult (Option UUID)}
    {credits : TravelCreditsResult (Option UUID)} (hphase : r.phase = .running)
    (hnext : r.thread.next = [.evaluateOptions]) (hchosen : Chosen r.thread.values context segment)
    (hsearch : r.thread.values.searchResult = some search)
    (hcredits : r.thread.values.creditsResult = some credits) (env : Env) :
    Returning (r.round (graph modelValidate) env) := by
  refine Run.round_of_wp hphase ?_ env
  rw [hnext]
  apply wp_runAll_single
  change (evaluateOptions r.thread.values).wp trace _ _
  simp only [evaluateOptions, hchosen.requested, hsearch, hcredits]
  refine wp_trace_call.mpr fun reply => ?_
  cases reply with
  | error exc => exact .fail rfl
  | ok result =>
    dsimp only
    split
    · rename_i hunknown
      exact .fail (if_pos (by simpa using hunknown))
    · exact .advance (finish_update (r := { r with calls := _ }) hnext rfl) (.askConfirmation _ rfl rfl rfl)

theorem returning_askConfirmation {evaluation : Evaluation} (hphase : r.phase = .running)
    (hnext : r.thread.next = [.askConfirmation]) (hanswer : r.answer = none)
    (hshown : r.thread.values.evaluation = some evaluation) (env : Env) :
    Returning (r.round (graph modelValidate) env) := by
  refine Run.round_of_wp hphase ?_ env
  rw [hnext, hanswer]
  apply wp_runAll_single
  change (askConfirmation modelValidate r.thread.values none).wp trace _ _
  unfold askConfirmation
  rw [hshown]
  exact ⟨nofun, nofun, nofun⟩

end

theorem Returning.round (h : Returning r) (hphase : r.phase = .running) (env : Env) :
    Returning (r.round (graph modelValidate) env) := by
  cases h.running hphase with
  | refreshContext _ _ hnext hchosen => exact returning_refreshContext hphase hnext hchosen env
  | gather _ _ hnext hchosen => exact returning_gather hphase hnext hchosen env
  | evaluateOptions _ _ _ _ hnext hchosen hsearch hcredits =>
    exact returning_evaluateOptions hphase hnext hchosen hsearch hcredits env
  | askConfirmation _ hnext hanswer hshown =>
    exact returning_askConfirmation hphase hnext hanswer hshown env

theorem Budget.round_other (h : Budget spent bound r) (hphase : r.phase = .running)
    (hnext : .explainInvalidChange ∉ r.thread.next) (env : Env) :
    Budget spent bound (r.round (graph modelValidate) env) := by
  have hrejected (hmem : .explainInvalidChange ∈ r.visited) : spent + 1 ≤ bound ∧
      Returning (r.round (graph modelValidate) env) := by
    obtain ⟨hle, hreturning⟩ | ⟨-, hfailed⟩ := h.rejected hmem
    · exact ⟨hle, hreturning.round hphase env⟩
    · rw [hfailed.phase] at hphase
      cases hphase
  obtain ⟨calls, result, hround, hwp⟩ := Run.round_of_running (g := graph modelValidate) hphase env
  rw [hround] at hrejected ⊢
  have hkeeps := hwp _ (wp_runAll_update (P := fun update =>
    update.retryCount = none ∧ update.maxRetries = none) ⟨rfl, rfl⟩ ?_ ?_)
  · obtain ⟨_, hfinish⟩ | ⟨_, hfinish⟩ | ⟨update, nodes, hupdate, -, hfinish⟩ :=
      Run.finish_cases (graph modelValidate) { r with calls := calls } result
    · rw [hfinish] at hrejected ⊢
      exact ⟨h.bound_eq, h.count, fun hmem => .inl (hrejected hmem)⟩
    · rw [hfinish] at hrejected ⊢
      exact ⟨h.bound_eq, h.count, fun hmem => .inl (hrejected hmem)⟩
    · rw [hfinish] at hrejected ⊢
      obtain ⟨hcount, hmax⟩ := hkeeps update hupdate
      have hvisited : .explainInvalidChange ∈ r.visited ++ r.thread.next ↔
          .explainInvalidChange ∈ r.visited := by
        rw [List.mem_append, or_iff_left hnext]
      refine ⟨?_, ?_, fun hmem => .inl (hrejected (hvisited.mp hmem))⟩
      · change update.maxRetries.or r.thread.values.maxRetries = _
        rw [hmax]
        exact h.bound_eq
      · change (update.retryCount.or r.thread.values.retryCount).getD 0 =
          spent + if .explainInvalidChange ∈ r.visited ++ r.thread.next then 1 else 0
        simp only [hcount, hvisited]
        exact h.count
  · rintro update rest ⟨hcount, hmax⟩ ⟨hcount', hmax'⟩
    constructor
    · change rest.retryCount.or update.retryCount = none
      rw [hcount, hcount']
      rfl
    · change rest.maxRetries.or update.maxRetries = none
      rw [hmax, hmax']
      rfl
  · intro node hnode calls
    exact keeps_run (fun heq => hnext (heq ▸ hnode)) _ _ calls

theorem Budget.round_explain {validation : ValidationResult} {context : Context}
    {segment : ReservationSegmentDetails} (h : Budget spent bound r) (hphase : r.phase = .running)
    (hnext : r.thread.next = [.explainInvalidChange])
    (hinvalid : r.thread.values.validation = some validation)
    (hdeclined : validation.userDeclined = false) (hchosen : Chosen r.thread.values context segment)
    (env : Env) : Budget spent bound (r.round (graph modelValidate) env) := by
  have hunvisited : .explainInvalidChange ∉ r.visited := by
    intro hmem
    obtain ⟨-, hreturning⟩ | ⟨-, hfailed⟩ := h.rejected hmem
    · cases hreturning.running hphase with
      | refreshContext _ _ hplace => cases hnext.symm.trans hplace
      | gather _ _ hplace => cases hnext.symm.trans hplace
      | evaluateOptions _ _ _ _ hplace => cases hnext.symm.trans hplace
      | askConfirmation _ hplace => cases hnext.symm.trans hplace
    · rw [hfailed.phase] at hphase
      cases hphase
  have hcount := h.count
  rw [if_neg hunvisited, add_zero] at hcount
  have hvisited : .explainInvalidChange ∈ r.visited ++ r.thread.next := by
    rw [hnext]
    exact List.mem_concat_self
  refine Run.round_of_wp hphase ?_ env
  rw [hnext]
  apply wp_runAll_single
  change (explainInvalidChange r.thread.values).wp trace _ _
  simp only [explainInvalidChange, hinvalid, hdeclined, Bool.false_eq_true, ↓reduceIte, h.bound_eq,
    Option.getD_some, hcount]
  split
  · rename_i hexceeded
    change Budget spent bound (Run.finish (graph modelValidate) r (.ok (.ok _)))
    rw [finish_update hnext rfl]
    refine ⟨h.bound_eq, ?_, fun _ => .inr ⟨hexceeded, rfl, _, rfl, rfl⟩⟩
    exact (congrArg (spent + ·) (if_pos hvisited)).symm
  · rename_i hleft
    change Budget spent bound (Run.finish (graph modelValidate) r (.ok (.ok _)))
    rw [finish_update hnext rfl]
    refine ⟨h.bound_eq, ?_, fun _ => .inl ⟨by omega, nofun, fun _ => ?_, nofun⟩⟩
    · exact (congrArg (spent + ·) (if_pos hvisited)).symm
    · exact .refreshContext context segment rfl (hchosen.merge rfl rfl)

theorem Budget.round (h : Budget spent bound r) (hinvariant : Invariant modelValidate r)
    (hphase : r.phase = .running) (env : Env) :
    Budget spent bound (r.round (graph modelValidate) env) := by
  have other {nodes : List Node} (hnext : r.thread.next = nodes)
      (hnodes : .explainInvalidChange ∉ nodes) : Budget spent bound (r.round (graph modelValidate) env) :=
    h.round_other hphase (hnext ▸ hnodes) env
  cases hinvariant.running hphase with
  | explainInvalidChange validation _ _ hnext hinvalid hdeclined hchosen =>
    exact h.round_explain hphase hnext hinvalid hdeclined hchosen env
  | understandRequest hnext => exact other hnext (by decide)
  | getReservation hnext => exact other hnext (by decide)
  | gather _ hnext => exact other hnext (by decide)
  | evaluateOptions _ _ hnext => exact other hnext (by decide)
  | askConfirmation _ hnext => exact other hnext (by decide)
  | answered _ _ hnext => exact other hnext (by decide)
  | validateChange _ _ _ hnext => exact other hnext (by decide)
  | refreshContext _ _ hnext => exact other hnext (by decide)
  | executeRebooking _ _ hnext => exact other hnext (by decide)
  | verifyRebooking _ _ _ _ hnext => exact other hnext (by decide)
  | finalizeDeclined hnext => exact other hnext (by decide)
  | finalizeFailed _ hnext => exact other hnext (by decide)

theorem Budget.rounds (h : Budget spent bound r) (hinvariant : Invariant modelValidate r)
    (envs : List Env) : Budget spent bound (r.rounds (graph modelValidate) envs) := by
  refine (Run.rounds_invariant (I := fun r => Budget spent bound r ∧ Invariant modelValidate r) ?_ envs
    ⟨h, hinvariant⟩).1
  rintro r env ⟨h, hinvariant⟩ hphase
  exact ⟨h.round hinvariant hphase env, invariant_round hinvariant hphase env⟩

end

section

variable {modelValidate : Json → Except String Selection} {r : Run} {values : AgentState}

theorem counts_run (h : 0 ≤ values.retryCount.getD 0) (node : Node) (answer : Option Json) (calls : Calls) :
    ((graph modelValidate).run node values answer).wp trace (fun _ outcome => ∀ update,
      outcome = .update update → ∀ n, update.retryCount = some n → 0 ≤ n) calls := by
  by_cases hnode : node = .explainInvalidChange
  · subst hnode
    change (explainInvalidChange values).wp trace _ _
    unfold explainInvalidChange
    split
    · rintro _ ⟨⟩
    · dsimp only
      split
      · rintro _ ⟨⟩ _ ⟨⟩
      · split
        · rintro _ ⟨⟩ _ ⟨⟩
          omega
        · rintro _ ⟨⟩ _ ⟨⟩
          omega
  · refine Prog.wp_mono _ _ ?_ (keeps_run hnode values answer calls)
    intro _ outcome hkeeps update hupdate n hn
    rw [(hkeeps update hupdate).1] at hn
    cases hn

theorem count_nonneg_round (h : 0 ≤ r.thread.values.retryCount.getD 0) (hphase : r.phase = .running)
    (env : Env) : 0 ≤ (r.round (graph modelValidate) env).thread.values.retryCount.getD 0 := by
  obtain ⟨calls, result, hround, hwp⟩ := Run.round_of_running (g := graph modelValidate) hphase env
  rw [hround]
  have hcounts := hwp _ (wp_runAll_update
    (P := fun update => ∀ n, update.retryCount = some n → 0 ≤ n) nofun ?_
    fun node _ calls => counts_run h node r.answer calls)
  · obtain ⟨_, hfinish⟩ | ⟨_, hfinish⟩ | ⟨update, nodes, hupdate, -, hfinish⟩ :=
      Run.finish_cases (graph modelValidate) { r with calls := calls } result
    · rw [hfinish]
      exact h
    · rw [hfinish]
      exact h
    · rw [hfinish]
      change 0 ≤ (update.retryCount.or r.thread.values.retryCount).getD 0
      cases hn : update.retryCount with
      | none => exact h
      | some n => exact hcounts update hupdate n hn
  · intro update rest hupdate hrest n hn
    change rest.retryCount.or update.retryCount = some n at hn
    obtain hn | ⟨-, hn⟩ := Option.or_eq_some_iff.mp hn
    · exact hrest n hn
    · exact hupdate n hn

theorem count_nonneg_save {i : Invocation} {thread : Thread} (h : 0 ≤ thread.values.retryCount.getD 0) :
    0 ≤ (i.save thread).values.retryCount.getD 0 := by
  unfold Invocation.save
  split
  · rename_i r hrun
    obtain ⟨first, hstart, rfl⟩ := Invocation.run_eq_ok hrun
    refine Run.rounds_invariant (I := fun r => 0 ≤ r.thread.values.retryCount.getD 0)
      (fun _ env h hphase => count_nonneg_round h hphase env) i.envs ?_
    unfold Invocation.start at hstart
    split at hstart
    · rw [AgentRunner.run_eq_ok hstart]
      exact h
    · obtain ⟨payload, -, rfl⟩ := AgentRunner.resume_eq_ok hstart
      exact h
  · exact h

theorem count_nonneg_after (history : List Invocation) :
    0 ≤ (after history).values.retryCount.getD 0 :=
  after_invariant (I := fun thread => 0 ≤ thread.values.retryCount.getD 0) (Int.le_refl 0)
    (fun _ _ h => count_nonneg_save h) history

end

def refuses : Except Exception Json → Bool
  | .error exc => exc.valueError
  | .ok (.bool false) => true
  | .ok _ => false

def rejects (state : AgentState) (evaluation : Evaluation) (env : Env) (selection : Selection) : Bool :=
  expectedSegmentId state evaluation.request ≠ some selection.segmentId ||
    !evaluation.options.any (RebookingOption.offers selection) || refuses (env (.validateChange selection))

/-- A confirmed selection that is invalid, as the validator replies. -/
def ConfirmationResult.invalid (confirmation : ConfirmationResult) (state : AgentState) (env : Env) : Bool :=
  confirmation.confirmed && confirmation.selection.any (rejects state confirmation.evaluation env)

def Invocation.invalid (i : Invocation) (thread : Thread) : Bool :=
  match i.input, thread.values.evaluation, i.envs with
  | .answer answer, some evaluation, _ :: env :: _ =>
    match confirmation i.runner.modelValidate answer evaluation with
    | .ok confirmation => confirmation.invalid thread.values env
    | .error _ => false
  | _, _, _ => false

/-- The answer is an object, and its selection, if it has one, can be decoded. -/
def Decodes (modelValidate : Json → Except String Selection) (answer : Json) : Prop :=
  ∀ evaluation, ∃ result, confirmation modelValidate answer evaluation = .ok result

section

variable {modelValidate : Json → Except String Selection} {r : Run} {values : AgentState}
  {confirmation : ConfirmationResult} {env : Env} {calls : Calls}

theorem interpret_validator (selection : Selection) :
    (ChangeValidator.validateChange selection).interpret (record env) calls =
      (env (.validateChange selection), calls ++ [⟨.validateChange selection, env (.validateChange selection)⟩]) :=
  rfl

theorem validateChange_invalid (calls : Calls) (hconfirmation : values.confirmation = some confirmation)
    (h : confirmation.invalid values env = true) : ∃ selection reason,
      ((validateChange values).interpret (record env) calls).1 =
        .update (invalidChange confirmation.evaluation selection reason) := by
  rw [ConfirmationResult.invalid, Bool.and_eq_true, Option.any_eq_true] at h
  obtain ⟨hconfirmed, selection, hselection, hrejects⟩ := h
  simp only [validateChange, hconfirmation, hconfirmed, Bool.not_true, Bool.false_eq_true, ↓reduceIte,
    hselection]
  split
  · exact ⟨selection, _, rfl⟩
  · rename_i hsegment
    split
    · exact ⟨selection, _, rfl⟩
    · rename_i hoffered
      have hrefuses : refuses (env (.validateChange selection)) = true := by
        simpa [rejects, hsegment, hoffered] using hrejects
      rw [Prog.interpret_bind, interpret_validator]
      dsimp only
      generalize env (.validateChange selection) = reply at hrefuses ⊢
      match reply, hrefuses with
      | .error exc, hrefuses =>
        have hvalueError : exc.valueError = true := hrefuses
        refine ⟨selection, exc.message, ?_⟩
        show (Prog.interpret (record env) (if exc.valueError = true then _ else _) _).1 = _
        rw [if_pos hvalueError]
        rfl
      | .ok (.bool false), _ => exact ⟨selection, _, rfl⟩

theorem validateChange_other (calls : Calls) (hconfirmation : values.confirmation = some confirmation)
    (h : confirmation.invalid values env = false) (update : AgentState)
    (hupdate : ((validateChange values).interpret (record env) calls).1 = .update update) :
    update.route = some .valid ∨ update.route = some .declined := by
  unfold validateChange at hupdate
  rw [hconfirmation] at hupdate
  dsimp only at hupdate
  split at hupdate
  · cases hupdate
    exact .inr rfl
  · rename_i hconfirmed
    rw [Bool.not_eq_true, Bool.not_eq_false'] at hconfirmed
    split at hupdate
    · cases hupdate
    · rename_i selection hselection
      have hrejects : rejects values confirmation.evaluation env selection = false := by
        simpa [ConfirmationResult.invalid, hconfirmed, hselection] using h
      simp only [rejects, Bool.or_eq_false_iff, decide_eq_false_iff_not] at hrejects
      obtain ⟨⟨hsegment, hoffered⟩, hrefuses⟩ := hrejects
      rw [if_neg hsegment, hoffered, if_neg Bool.false_ne_true, Prog.interpret_bind,
        interpret_validator] at hupdate
      dsimp only at hupdate
      generalize env (.validateChange selection) = reply at hrefuses hupdate
      split at hupdate
      · rw [if_neg (by simpa [refuses] using hrefuses)] at hupdate
        cases hupdate
      · cases hrefuses
      · cases hupdate
        exact .inl rfl

def leaving : List (List Node) :=
  [[.executeRebooking], [.verifyRebooking], [.finalizeFailed], [.finalizeDeclined]]

structure Leaving (r : Run) : Prop where
  next : r.phase = .running → r.thread.next ∈ leaving
  unexplained : .explainInvalidChange ∉ r.visited

theorem leaving_successors {nodes nodes' : List Node} (h : nodes ∈ leaving)
    (hsuccessors : (graph modelValidate).successors values nodes = .ok nodes') :
    nodes' = [] ∨ nodes' ∈ leaving := by
  simp only [leaving, List.mem_cons, List.not_mem_nil, or_false] at h
  have hmem {nodes : List Node} (n : Nat) (hn : leaving[n]? = some nodes) : nodes ∈ leaving :=
    List.mem_of_getElem? hn
  have hroute {completed : List Node} (h : executionRoute completed values = .ok nodes') :
      nodes' = completed ∨ nodes' ∈ leaving := by
    unfold executionRoute at h
    split at h
    · cases h
      exact .inl rfl
    · cases h
      exact .inr (hmem 2 rfl)
    · cases h
  obtain rfl | rfl | rfl | rfl := h
  · rw [successors_single] at hsuccessors
    obtain rfl | hmem' := hroute hsuccessors
    · exact .inr (hmem 1 rfl)
    · exact .inr hmem'
  · rw [successors_single] at hsuccessors
    exact hroute hsuccessors
  · cases hsuccessors
    exact .inl rfl
  · cases hsuccessors
    exact .inl rfl

theorem Leaving.rounds (h : Leaving r) (envs : List Env) : Leaving (r.rounds (graph modelValidate) envs) := by
  refine Run.rounds_invariant (fun r env h hphase => ?_) envs h
  have hnodes : ∀ nodes ∈ leaving, .explainInvalidChange ∉ nodes := by decide
  obtain ⟨calls, result, hround, -⟩ := Run.round_of_running (g := graph modelValidate) hphase env
  rw [hround]
  obtain ⟨_, hfinish⟩ | ⟨_, hfinish⟩ | ⟨update, nodes, -, hsuccessors, hfinish⟩ :=
    Run.finish_cases (graph modelValidate) { r with calls := calls } result
  · rw [hfinish]
    exact ⟨nofun, h.unexplained⟩
  · rw [hfinish]
    exact ⟨nofun, h.unexplained⟩
  · rw [hfinish]
    refine ⟨fun hrunning => ?_, fun hmem => ?_⟩
    · obtain rfl | hmem := leaving_successors (h.next hphase) hsuccessors
      · cases hrunning
      · exact hmem
    · obtain hmem | hmem := List.mem_append.mp hmem
      · exact h.unexplained hmem
      · exact hnodes _ (h.next hphase) hmem

theorem round_invalid (modelValidate : Json → Except String Selection) (hphase : r.phase = .running)
    (hnext : r.thread.next = [.validateChange])
    (hconfirmation : r.thread.values.confirmation = some confirmation)
    (h : confirmation.invalid r.thread.values env = true) : ∃ calls selection reason,
      r.round (graph modelValidate) env = { r with calls := calls }.advance (graph modelValidate)
        (invalidChange confirmation.evaluation selection reason) [.explainInvalidChange] := by
  obtain ⟨selection, reason, hupdate⟩ := validateChange_invalid r.calls hconfirmation h
  refine ⟨((validateChange r.thread.values).interpret (record env) r.calls).2, selection, reason, ?_⟩
  rw [Run.round_single hphase hnext]
  change Run.finish _ _ ((validateChange r.thread.values).interpret (record env) r.calls).1.result = _
  rw [hupdate]
  exact finish_update (r := { r with calls := _ }) hnext rfl

theorem round_other (hphase : r.phase = .running) (hnext : r.thread.next = [.validateChange])
    (hconfirmation : r.thread.values.confirmation = some confirmation)
    (h : confirmation.invalid r.thread.values env = false)
    (hunexplained : .explainInvalidChange ∉ r.visited) : Leaving (r.round (graph modelValidate) env) := by
  have hother := validateChange_other r.calls hconfirmation h
  rw [Run.round_single hphase hnext]
  change Leaving (Run.finish _ _ ((validateChange r.thread.values).interpret (record env) r.calls).1.result)
  generalize ((validateChange r.thread.values).interpret (record env) r.calls).1 = outcome at hother ⊢
  cases outcome with
  | raise exc => exact ⟨by rintro ⟨⟩, hunexplained⟩
  | interrupt payload => exact ⟨by rintro ⟨⟩, hunexplained⟩
  | update update =>
    have hmem {nodes : List Node} (n : Nat) (hn : leaving[n]? = some nodes) : nodes ∈ leaving :=
      List.mem_of_getElem? hn
    have hroute (route : Route) (hroute : update.route = some route) :
        next .validateChange (r.thread.values.merge update) = validationRoute { route := some route } := by
      simp [next, validationRoute, AgentState.merge, hroute]
    have hleaves {calls : Calls} {nodes : List Node} (hnodes : nodes ∈ leaving)
        (h : next .validateChange (r.thread.values.merge update) = .ok nodes) :
        Leaving (Run.finish (graph modelValidate) { r with calls := calls } (.ok (.ok update))) := by
      rw [finish_update (r := { r with calls := calls }) hnext h]
      exact ⟨fun _ => hnodes, not_visited hnext hunexplained (by decide)⟩
    obtain hvalid | hdeclined := hother update rfl
    · exact hleaves (hmem 0 rfl) (hroute _ hvalid)
    · exact hleaves (hmem 3 rfl) (hroute _ hdeclined)

theorem explained_round {validation : ValidationResult} (hphase : r.phase = .running)
    (hnext : r.thread.next = [.explainInvalidChange])
    (hinvalid : r.thread.values.validation = some validation)
    (hdeclined : validation.userDeclined = false) (env : Env) :
    .explainInvalidChange ∈ (r.round (graph modelValidate) env).visited := by
  have hvisited : .explainInvalidChange ∈ r.visited ++ r.thread.next := by
    rw [hnext]
    exact List.mem_concat_self
  refine Run.round_of_wp (I := fun r' => .explainInvalidChange ∈ r'.visited) hphase ?_ env
  rw [hnext]
  apply wp_runAll_single
  change (explainInvalidChange r.thread.values).wp trace _ _
  simp only [explainInvalidChange, hinvalid, hdeclined, Bool.false_eq_true, ↓reduceIte]
  split
  · change .explainInvalidChange ∈ (Run.finish (graph modelValidate) r (.ok (.ok _))).visited
    rw [finish_update hnext rfl]
    exact hvisited
  · change .explainInvalidChange ∈ (Run.finish (graph modelValidate) r (.ok (.ok _))).visited
    rw [finish_update hnext rfl]
    exact hvisited

structure Validating (thread : Thread) (confirmation : ConfirmationResult) (r : Run) : Prop where
  phase : r.phase = .running
  next : r.thread.next = [.validateChange]
  values : r.thread.values = thread.values.merge { confirmation := some confirmation }
  answer : r.answer = none
  raised : r.thread.raised = none
  unexplained : .explainInvalidChange ∉ r.visited

theorem validating_resume {thread : Thread} {payload : Interrupt} {answer : Json} (hsaved : Saved thread)
    (hpayload : thread.interrupt = some payload) (hraised : thread.raised = none)
    (hconfirmation : Python.confirmation modelValidate answer payload.evaluation = .ok confirmation)
    (env : Env) :
    Validating thread confirmation
      (((graph modelValidate).resume thread payload answer).round (graph modelValidate) env) := by
  obtain ⟨hnext, hoffering⟩ := hsaved payload hpayload
  have hphase : ((graph modelValidate).resume thread payload answer).phase = .running := by
    simp only [Graph.resume, hraised]
  have hask : askConfirmation modelValidate thread.values (some answer) =
      update { confirmation := some confirmation } := by
    simp only [askConfirmation, hoffering.shown, hconfirmation]
  refine Run.round_of_wp hphase ?_ env
  change ((graph modelValidate).runAll thread.values (some answer) thread.next).wp trace _ []
  rw [hnext]
  apply wp_runAll_single
  change (askConfirmation modelValidate thread.values (some answer)).wp trace _ []
  rw [hask]
  change Validating thread confirmation (Run.finish (graph modelValidate)
    ((graph modelValidate).resume thread payload answer) (.ok (.ok { confirmation := some confirmation })))
  rw [finish_update (r := (graph modelValidate).resume thread payload answer) hnext rfl]
  exact ⟨rfl, rfl, rfl, rfl, rfl, not_visited (r := (graph modelValidate).resume thread payload answer)
    hnext List.not_mem_nil (by decide)⟩

end

/-- An invocation with the thread it begins on. -/
structure Exchange where
  thread : Thread
  invocation : Invocation
  run : Run

def follow (thread : Thread) : List Invocation → List Exchange
  | [] => []
  | i :: rest =>
    match i.run thread with
    | .error _ => follow thread rest
    | .ok r => ⟨thread, i, r⟩ :: follow r.thread rest

/-- The answers that were invalid selections. -/
def rejections (exchanges : List Exchange) : Nat :=
  exchanges.countP fun exchange => exchange.invocation.invalid exchange.thread

section

variable {i : Invocation} {thread : Thread} {r : Run} {bound : Int} {answer : Json}

theorem budget_message {text : String} (hsaved : Saved thread) (hinput : i.input = .message text)
    (h : i.run thread = .ok r) :
    Budget (thread.values.retryCount.getD 0) i.runner.maxRetries r := by
  obtain ⟨first, hstart, rfl⟩ := Invocation.run_eq_ok h
  have hinvariant := Invocation.invariant_start hsaved hstart
  refine Budget.rounds ?_ hinvariant i.envs
  simp only [Invocation.start, hinput] at hstart
  rw [AgentRunner.run_eq_ok hstart]
  exact ⟨rfl, (add_zero _).symm, nofun⟩

theorem message_rejects_nothing {text : String} (hinput : i.input = .message text)
    (h : i.run thread = .ok r) : .explainInvalidChange ∉ r.visited ∧ r.thread.raised = none := by
  obtain ⟨first, hstart, rfl⟩ := Invocation.run_eq_ok h
  simp only [Invocation.start, hinput] at hstart
  rw [AgentRunner.run_eq_ok hstart]
  constructor
  · refine (Run.rounds_invariant (fun _ env h hphase => Asking.round h hphase env) i.envs ?_).unexplained
    exact ⟨fun _ => rfl, fun _ => .head _, List.not_mem_nil⟩
  · exact Run.raised_rounds rfl rfl i.envs

theorem budget_answer (hsaved : Saved thread) (hbound : thread.values.maxRetries = some bound)
    (hinput : i.input = .answer answer) (h : i.run thread = .ok r) :
    Budget (thread.values.retryCount.getD 0) bound r := by
  obtain ⟨first, hstart, rfl⟩ := Invocation.run_eq_ok h
  have hinvariant := Invocation.invariant_start hsaved hstart
  refine Budget.rounds ?_ hinvariant i.envs
  simp only [Invocation.start, hinput] at hstart
  obtain ⟨payload, -, rfl⟩ := AgentRunner.resume_eq_ok hstart
  exact ⟨hbound, (add_zero _).symm, nofun⟩

theorem validating_run {env : Env} {envs : List Env} (hsaved : Saved thread) (hraised : thread.raised = none)
    (hinput : i.input = .answer answer) (hdecodes : Decodes i.runner.modelValidate answer)
    (henvs : i.envs = env :: envs) (h : i.run thread = .ok r) : ∃ evaluation result r₁,
      thread.values.evaluation = some evaluation ∧
      confirmation i.runner.modelValidate answer evaluation = .ok result ∧
      Validating thread result r₁ ∧ r = r₁.rounds i.runner.graph envs := by
  obtain ⟨first, hstart, rfl⟩ := Invocation.run_eq_ok h
  simp only [Invocation.start, hinput] at hstart
  obtain ⟨payload, hpayload, rfl⟩ := AgentRunner.resume_eq_ok hstart
  obtain ⟨result, hresult⟩ := hdecodes payload.evaluation
  refine ⟨payload.evaluation, result, _, (hsaved payload hpayload).2.shown, hresult,
    validating_resume hsaved hpayload hraised hresult env, ?_⟩
  rw [henvs]
  rfl

theorem explained_iff {first second third : Env} {envs : List Env} (hsaved : Saved thread)
    (hraised : thread.raised = none) (hinput : i.input = .answer answer)
    (hdecodes : Decodes i.runner.modelValidate answer)
    (henvs : i.envs = first :: second :: third :: envs) (h : i.run thread = .ok r) :
    .explainInvalidChange ∈ r.visited ↔ i.invalid thread = true := by
  obtain ⟨evaluation, result, r₁, hevaluation, hresult, hr₁, rfl⟩ :=
    validating_run hsaved hraised hinput hdecodes henvs h
  have hconfirmation : r₁.thread.values.confirmation = some result := by
    rw [hr₁.values]
    rfl
  have hinvalid : i.invalid thread = result.invalid r₁.thread.values second := by
    simp only [Invocation.invalid, hinput, hevaluation, henvs, hresult, hr₁.values]
    rfl
  rw [hinvalid]
  change .explainInvalidChange ∈ ((r₁.round i.runner.graph second).rounds i.runner.graph (third :: envs)).visited ↔ _
  cases hcase : result.invalid r₁.thread.values second with
  | false =>
    have hleaving : Leaving (r₁.round i.runner.graph second) :=
      round_other hr₁.phase hr₁.next hconfirmation hcase hr₁.unexplained
    exact iff_of_false (hleaving.rounds (third :: envs)).unexplained nofun
  | true =>
    obtain ⟨calls, selection, reason, hround⟩ :=
      round_invalid i.runner.modelValidate hr₁.phase hr₁.next hconfirmation hcase
    refine iff_of_true (Run.visited_rounds (g := i.runner.graph) ?_ envs) rfl
    rw [AgentRunner.graph, hround]
    exact explained_round rfl rfl rfl rfl third

theorem exists_three {envs : List Env} (h : 7 ≤ envs.length) :
    ∃ first second third rest, envs = first :: second :: third :: rest := by
  match envs, h with
  | first :: second :: third :: rest, _ => exact ⟨first, second, third, rest, rfl⟩

theorem budget_follow {answers : List Invocation} (hsaved : Saved thread) (hraised : thread.raised = none)
    (hbound : thread.values.maxRetries = some bound)
    (hanswers : ∀ i ∈ answers, ∃ answer, i.input = .answer answer ∧ Decodes i.runner.modelValidate answer)
    (henough : ∀ i ∈ answers, 7 ≤ i.envs.length) {earlier later : List Exchange} {exchange : Exchange}
    (hfollow : follow thread answers = earlier ++ exchange :: later) :
    Budget (thread.values.retryCount.getD 0 + rejections earlier) bound exchange.run ∧
      Saved exchange.thread ∧ exchange.invocation.run exchange.thread = .ok exchange.run ∧
      7 ≤ exchange.invocation.envs.length ∧
      (.explainInvalidChange ∈ exchange.run.visited ↔ exchange.invocation.invalid exchange.thread = true) := by
  induction answers generalizing thread earlier with
  | nil => cases earlier <;> cases hfollow
  | cons i answers ih =>
    rw [List.forall_mem_cons] at hanswers henough
    obtain ⟨⟨answer, hinput, hdecodes⟩, hanswers⟩ := hanswers
    unfold follow at hfollow
    split at hfollow
    · exact ih hsaved hraised hbound hanswers henough.2 hfollow
    · rename_i r hr
      have hbudget := budget_answer hsaved hbound hinput hr
      obtain ⟨first, second, third, rest, henvs⟩ := exists_three henough.1
      have hexplained := explained_iff hsaved hraised hinput hdecodes henvs hr
      cases earlier with
      | nil =>
        cases hfollow
        refine ⟨?_, hsaved, hr, henough.1, hexplained⟩
        simpa [rejections] using hbudget
      | cons _ earlier =>
        obtain ⟨rfl, hrest⟩ := List.cons.inj hfollow
        have hsaved' := (Invocation.invariant hsaved hr).saved
        have hraised' : r.thread.raised = none := by
          obtain ⟨_, _, r₁, -, -, hr₁, rfl⟩ := validating_run hsaved hraised hinput hdecodes henvs hr
          exact Run.raised_rounds hr₁.answer hr₁.raised _
        obtain ⟨hlater, hexchange⟩ := ih hsaved' hraised' hbudget.bound_eq hanswers henough.2 hrest
        refine ⟨?_, hexchange⟩
        rw [hbudget.count] at hlater
        have hcount : (rejections (⟨thread, i, r⟩ :: earlier) : Int) =
            (if .explainInvalidChange ∈ r.visited then 1 else 0) + rejections earlier := by
          simp only [rejections, List.countP_cons, hexplained]
          split <;> omega
        rw [hcount, ← add_assoc]
        exact hlater

end

/-- A conversation whose answers can all be decoded, and that begins with no retries used up or has
none, gets them all: an invalid selection leads to another question as long as the bound is not
reached, unless a call on the way raises, and the next one ends the conversation. -/
theorem full_budget (history : List Invocation) (first : Invocation) (text : String) (r₀ : Run)
    (answers : List Invocation) (hmessage : first.input = .message text)
    (hfirst : first.run (after history) = .ok r₀)
    (hanswers : ∀ i ∈ answers, ∃ answer, i.input = .answer answer ∧ Decodes i.runner.modelValidate answer)
    (henough : ∀ i ∈ answers, 7 ≤ i.envs.length)
    (hcount : (after history).values.retryCount.getD 0 = 0 ∨ first.runner.maxRetries ≤ 0)
    (earlier later : List Exchange) (exchange : Exchange)
    (hfollow : follow r₀.thread answers = earlier ++ exchange :: later)
    (hinvalid : exchange.invocation.invalid exchange.thread = true) :
    (rejections earlier + 1 ≤ first.runner.maxRetries →
      (exchange.run.phase = .paused ∧ ∃ payload, exchange.run.thread.interrupt = some payload) ∨
        ∃ exc, exchange.run.phase = .failed exc ∧ ∃ call ∈ exchange.run.calls, raised call = some exc) ∧
    (first.runner.maxRetries < rejections earlier + 1 → Failed exchange.run) := by
  have hbudget := budget_message (saved_after history) hmessage hfirst
  have hsaved := (Invocation.invariant (saved_after history) hfirst).saved
  obtain ⟨hunexplained, hraised⟩ := message_rejects_nothing hmessage hfirst
  obtain ⟨hr, hthread, hrun, hrounds, hexplained⟩ :=
    budget_follow hsaved hraised hbudget.bound_eq hanswers henough hfollow
  rw [hbudget.count, if_neg hunexplained, add_zero] at hr
  have hnonneg := count_nonneg_after history
  have hrejected := hr.rejected (hexplained.mpr hinvalid)
  constructor
  · intro hle
    obtain ⟨-, hreturning⟩ | ⟨hlt, -⟩ := hrejected
    · cases hphase : exchange.run.phase with
      | running => exact absurd hphase (Invocation.phase_ne_running hthread hrun hrounds)
      | ended => exact absurd hphase hreturning.phase
      | paused => exact .inl ⟨rfl, (Invocation.invariant hthread hrun).paused hphase⟩
      | failed exc => exact .inr ⟨exc, rfl, hreturning.failed exc hphase⟩
    · omega
  · intro hlt
    obtain ⟨hle, -⟩ | ⟨-, hfailed⟩ := hrejected
    · omega
    · exact hfailed

theorem full_budget_sample :
    ∃ r₀ earlier exchange, Sample.message.run (after []) = .ok r₀ ∧
      follow r₀.thread (List.replicate 3 (Sample.confirm 2)) = earlier ++ [exchange] ∧
      rejections earlier = 2 ∧ exchange.invocation.invalid exchange.thread = true ∧ Failed exchange.run := by
  obtain ⟨r₀, hfirst, hrun⟩ := Sample.message.exists_run (after [])
    (fun r₀ =>
      let exchanges := follow r₀.thread (List.replicate 3 (Sample.confirm 2))
      decide (rejections exchanges.dropLast = 2) &&
        exchanges.getLast?.any fun (exchange : Exchange) => exchange.invocation.invalid exchange.thread)
    (by decide +kernel)
  simp only [Bool.and_eq_true, decide_eq_true_eq, Option.any_eq_true] at hrun
  obtain ⟨hrejections, exchange, hlast, hinvalid⟩ := hrun
  have hfollow := (List.dropLast_append_getLast? exchange hlast).symm
  have hdecodes : Decodes Sample.modelValidate (Sample.confirmed 2) := by
    intro evaluation
    exact ⟨⟨true, some (Sample.selection 2), evaluation⟩, rfl⟩
  have hanswers : ∀ i ∈ List.replicate 3 (Sample.confirm 2), ∃ answer, i.input = .answer answer ∧
      Decodes i.runner.modelValidate answer := by
    intro i hi
    rw [List.eq_of_mem_replicate hi]
    exact ⟨_, rfl, hdecodes⟩
  have henough : ∀ i ∈ List.replicate 3 (Sample.confirm 2), 7 ≤ i.envs.length := by
    intro i hi
    rw [List.eq_of_mem_replicate hi]
    decide
  have hbudget := full_budget [] Sample.message _ r₀ _ rfl hfirst hanswers henough (.inl rfl) _ []
    exchange hfollow hinvalid
  refine ⟨r₀, _, exchange, hfirst, hfollow, hrejections, hinvalid, hbudget.2 ?_⟩
  rw [hrejections]
  decide

theorem budget_used_up :
    ∃ r, (Sample.confirm 2).run (after [Sample.message, Sample.confirm 2, Sample.confirm 2,
        Sample.decline, Sample.message]) = .ok r ∧
      (Sample.confirm 2).invalid (after [Sample.message, Sample.confirm 2, Sample.confirm 2,
        Sample.decline, Sample.message]) = true ∧
      Sample.message.runner.maxRetries = 2 ∧ Failed r := by
  obtain ⟨r, hr, hrun⟩ := (Sample.confirm 2).exists_run (after [Sample.message, Sample.confirm 2,
      Sample.confirm 2, Sample.decline, Sample.message])
    (fun r => decide (r.phase = .ended) &&
      r.thread.values.final.any fun (final : FinalResult) => decide (final.status = .failed))
    (by decide +kernel)
  simp only [Bool.and_eq_true, decide_eq_true_eq, Option.any_eq_true] at hrun
  exact ⟨r, hr, by decide +kernel, rfl, hrun.1, hrun.2⟩

end AgentsAtScale.Agent.Python
