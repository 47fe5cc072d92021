import AgentsAtScale.Program.Basic

/-! Graphs of nodes over a shared state, run in rounds.  The nodes of a round read the
saved values and issue operations; what they return is merged into the values and saved
before the next round.  A node may ask for an answer, which pauses the run until the
thread is resumed. -/

namespace AgentsAtScale.StateGraph

open Program

inductive Outcome (σ Payload ε : Type)
  | update (values : σ)
  | interrupt (payload : Payload)
  | raise (error : ε)

def Outcome.result : Outcome σ Payload ε → Except ε (Except Payload σ)
  | .update values => .ok (.ok values)
  | .interrupt payload => .ok (.error payload)
  | .raise error => .error error

/-- `next` gives the nodes after a node, `joins` those that wait for several nodes of a
round.  A node takes an answer before it issues an operation. -/
structure Graph (Node σ Answer Payload ε Op : Type) (Reply : Op → Type) where
  entry : Node
  empty : σ
  merge : σ → σ → σ
  merge_empty : ∀ values, merge values empty = values
  run : Node → σ → Option Answer → Prog Op Reply (Outcome σ Payload ε)
  takes : ∀ node values answer, run node values (some answer) = run node values none ∨
    ∃ outcome, run node values (some answer) = .ret outcome
  next : Node → σ → Except ε (List Node)
  joins : List (List Node × Node)

/-- What is saved of a thread.  A node that raises after it has taken an answer is given that
answer again whenever the thread is resumed, and raises again. -/
structure Thread (Node σ Payload ε : Type) where
  values : σ
  next : List Node := []
  interrupt : Option Payload := none
  raised : Option ε := none

inductive Phase (ε : Type)
  | running
  | paused
  | ended
  | failed (error : ε)
  deriving DecidableEq

/-- An invocation.  The answer is there until a node takes it; `visited` are the
nodes that have finished, and `written` is what they have returned. -/
structure Run (Node σ Answer Payload ε Op : Type) (Reply : Op → Type) where
  thread : Thread Node σ Payload ε
  phase : Phase ε := .running
  answer : Option Answer := none
  resumed : Option (Payload × Answer) := none
  calls : List (Sigma Reply) := []
  visited : List Node := []
  written : σ

variable {Node σ Answer Payload ε Op : Type} {Reply : Op → Type}

def record (env : (o : Op) → Reply o) (o : Op) (calls : List (Sigma Reply)) :
    Reply o × List (Sigma Reply) :=
  (env o, calls ++ [⟨o, env o⟩])

namespace Graph

variable (g : Graph Node σ Answer Payload ε Op Reply)

def runAll (values : σ) (answer : Option Answer) :
    List Node → Prog Op Reply (Except ε (Except Payload σ))
  | [] => .ret (.ok (.ok g.empty))
  | node :: nodes => do
    match ← g.run node values answer with
    | .raise error => return .error error
    | .interrupt payload => return .ok (.error payload)
    | .update update => return (← runAll values answer nodes).map (·.map (g.merge update))

def successors [DecidableEq Node] (values : σ) (nodes : List Node) : Except ε (List Node) := do
  let nexts ← nodes.mapM (g.next · values)
  return nexts.flatten ++ (g.joins.filter fun join => join.1.all (· ∈ nodes)).map (·.2)

def start (values : σ) : Run Node σ Answer Payload ε Op Reply where
  thread := { values := values, next := [g.entry] }
  written := g.empty

def resume (thread : Thread Node σ Payload ε) (payload : Payload) (answer : Answer) :
    Run Node σ Answer Payload ε Op Reply where
  thread := thread
  phase := match thread.raised with
    | some error => .failed error
    | none => .running
  answer := some answer
  resumed := some (payload, answer)
  written := g.empty

theorem phase_resume {g : Graph Node σ Answer Payload ε Op Reply} {answer : Answer}
    (thread : Thread Node σ Payload ε) (payload : Payload) :
    (g.resume thread payload answer).phase ≠ .paused ∧ (g.resume thread payload answer).phase ≠ .ended := by
  simp only [resume]
  split
  · exact ⟨nofun, nofun⟩
  · exact ⟨nofun, nofun⟩

end Graph

namespace Run

variable [DecidableEq Node] (g : Graph Node σ Answer Payload ε Op Reply)

def advance (r : Run Node σ Answer Payload ε Op Reply) (update : σ) (next : List Node) :
    Run Node σ Answer Payload ε Op Reply :=
  { r with
    thread := { values := g.merge r.thread.values update, next := next }
    phase := if next.isEmpty then .ended else .running
    answer := none
    visited := r.visited ++ r.thread.next
    written := g.merge r.written update }

def fail (r : Run Node σ Answer Payload ε Op Reply) (error : ε) : Run Node σ Answer Payload ε Op Reply :=
  { r with
    thread := { r.thread with raised := r.answer.map fun _ => error }
    phase := .failed error }

def finish (r : Run Node σ Answer Payload ε Op Reply) :
    Except ε (Except Payload σ) → Run Node σ Answer Payload ε Op Reply
  | .error error => r.fail error
  | .ok (.error payload) =>
    { r with thread := { r.thread with interrupt := some payload }, phase := .paused }
  | .ok (.ok update) =>
    match g.successors (g.merge r.thread.values update) r.thread.next with
    | .error error => r.fail error
    | .ok next => r.advance g update next

/-- One round of a running invocation, against an environment that answers its
operations. -/
def round (r : Run Node σ Answer Payload ε Op Reply) (env : (o : Op) → Reply o) :
    Run Node σ Answer Payload ε Op Reply :=
  match r.phase with
  | .running =>
    let (result, calls) :=
      (g.runAll r.thread.values r.answer r.thread.next).interpret (record env) r.calls
    finish g { r with calls := calls } result
  | _ => r

def rounds (r : Run Node σ Answer Payload ε Op Reply) (envs : List ((o : Op) → Reply o)) :
    Run Node σ Answer Payload ε Op Reply :=
  envs.foldl (round g) r

end Run

def trace : Monitor Op Reply where
  State := List (Sigma Reply)
  next calls o reply := calls ++ [⟨o, reply⟩]
  allowed _ _ := True

section

variable {calls : List (Sigma Reply)}

theorem wp_trace_call {o : Op} {f : Reply o → Prog Op Reply α} {Q : List (Sigma Reply) → α → Prop} :
    (Prog.call o >>= f).wp trace Q calls ↔
      ∀ reply, (f reply).wp trace Q (calls ++ [⟨o, reply⟩]) :=
  ⟨fun h reply => h.2 reply trivial, fun h => ⟨trivial, fun reply _ => h reply⟩⟩

theorem interpret_of_wp {p : Prog Op Reply α} {Q : List (Sigma Reply) → α → Prop}
    (h : p.wp trace Q calls) (env : (o : Op) → Reply o) :
    Q (p.interpret (record env) calls).2 (p.interpret (record env) calls).1 := by
  induction p generalizing calls with
  | ret a => exact h
  | op o k ih => exact ih (env o) (h.2 (env o) trivial)

theorem prefix_interpret (p : Prog Op Reply α) (env : (o : Op) → Reply o) :
    calls <+: (p.interpret (record env) calls).2 :=
  p.interpret_invariant (I := fun calls' => calls <+: calls')
    (fun _ _ h => h.trans (List.prefix_append ..)) List.prefix_rfl

variable {g : Graph Node σ Answer Payload ε Op Reply} {node : Node} {nodes : List Node} {values : σ}
  {answer : Option Answer} {Q : List (Sigma Reply) → Except ε (Except Payload σ) → Prop}

theorem wp_runAll_cons
    (h : (g.run node values answer).wp trace (fun calls outcome =>
      match outcome with
      | .raise error => Q calls (.error error)
      | .interrupt payload => Q calls (.ok (.error payload))
      | .update update => (g.runAll values answer nodes).wp trace
        (fun calls rest => Q calls (rest.map (·.map (g.merge update)))) calls) calls) :
    (g.runAll values answer (node :: nodes)).wp trace Q calls := by
  refine Prog.wp_bind _ _ _ h ?_
  intro calls outcome houtcome
  cases outcome with
  | raise error => exact houtcome
  | interrupt payload => exact houtcome
  | update update => exact Prog.wp_bind _ _ _ houtcome fun _ _ hrest => hrest

theorem wp_runAll_single
    (h : (g.run node values answer).wp trace (fun calls outcome => Q calls outcome.result) calls) :
    (g.runAll values answer [node]).wp trace Q calls := by
  apply wp_runAll_cons
  refine Prog.wp_mono _ _ ?_ h
  intro calls outcome houtcome
  cases outcome with
  | raise error => exact houtcome
  | interrupt payload => exact houtcome
  | update update =>
    change Q calls (.ok (.ok (g.merge update g.empty)))
    rw [g.merge_empty]
    exact houtcome

theorem interpret_runAll_single (env : (o : Op) → Reply o) :
    (g.runAll values answer [node]).interpret (record env) calls =
      (((g.run node values answer).interpret (record env) calls).1.result,
        ((g.run node values answer).interpret (record env) calls).2) := by
  simp only [Graph.runAll, Prog.interpret_bind]
  cases ((g.run node values answer).interpret (record env) calls).1 with
  | raise error => rfl
  | interrupt payload => rfl
  | update update =>
    change (Except.ok (Except.ok (g.merge update g.empty)), _) = _
    rw [g.merge_empty]
    rfl

theorem wp_runAll_update {P : σ → Prop} (hempty : P g.empty)
    (hmerge : ∀ update rest, P update → P rest → P (g.merge update rest))
    (h : ∀ node ∈ nodes, ∀ calls, (g.run node values answer).wp trace
      (fun _ outcome => ∀ update, outcome = .update update → P update) calls) :
    (g.runAll values answer nodes).wp trace
      (fun _ result => ∀ update, result = .ok (.ok update) → P update) calls := by
  induction nodes generalizing calls with
  | nil =>
    rintro _ ⟨⟩
    exact hempty
  | cons node nodes ih =>
    apply wp_runAll_cons
    refine Prog.wp_mono _ _ ?_ (h node List.mem_cons_self calls)
    intro calls outcome houtcome
    cases outcome with
    | raise error =>
      rintro _ ⟨⟩
    | interrupt payload =>
      rintro _ ⟨⟩
    | update update =>
      refine Prog.wp_mono _ _ ?_ (ih fun node hnode => h node (List.mem_cons_of_mem _ hnode))
      intro calls result hresult merged heq
      match result with
      | .ok (.ok rest) =>
        cases heq
        exact hmerge update rest (houtcome update rfl) (hresult rest rfl)
      | .ok (.error payload) => cases heq
      | .error error => cases heq

end

namespace Run

variable [DecidableEq Node] {g : Graph Node σ Answer Payload ε Op Reply}
  {r : Run Node σ Answer Payload ε Op Reply}

theorem round_of_phase (h : r.phase ≠ .running) (env : (o : Op) → Reply o) : r.round g env = r := by
  unfold round
  split
  · exact absurd ‹_› h
  · rfl

theorem finish_cases (g : Graph Node σ Answer Payload ε Op Reply)
    (r : Run Node σ Answer Payload ε Op Reply) (result : Except ε (Except Payload σ)) :
    (∃ error, r.finish g result = r.fail error) ∨
    (∃ payload, r.finish g result =
      { r with thread := { r.thread with interrupt := some payload }, phase := .paused }) ∨
    ∃ update next, result = .ok (.ok update) ∧
      g.successors (g.merge r.thread.values update) r.thread.next = .ok next ∧
      r.finish g result = r.advance g update next := by
  match result with
  | .error error => exact .inl ⟨error, rfl⟩
  | .ok (.error payload) => exact .inr (.inl ⟨payload, rfl⟩)
  | .ok (.ok update) =>
    simp only [finish]
    split
    · rename_i error _
      exact .inl ⟨error, rfl⟩
    · rename_i next hnext
      exact .inr (.inr ⟨update, next, rfl, hnext, rfl⟩)

theorem finish_running {result : Except ε (Except Payload σ)}
    (h : (r.finish g result).phase = .running) :
    ∃ update next, g.successors (g.merge r.thread.values update) r.thread.next = .ok next ∧
      r.finish g result = r.advance g update next := by
  obtain ⟨_, hfinish⟩ | ⟨_, hfinish⟩ | ⟨update, next, -, hnext, hfinish⟩ := finish_cases g r result
  · rw [hfinish] at h
    cases h
  · rw [hfinish] at h
    cases h
  · exact ⟨update, next, hnext, hfinish⟩

theorem round_of_running (h : r.phase = .running) (env : (o : Op) → Reply o) :
    ∃ calls result, r.round g env = finish g { r with calls := calls } result ∧
      ∀ Q, (g.runAll r.thread.values r.answer r.thread.next).wp trace Q r.calls → Q calls result := by
  unfold round
  rw [h]
  exact ⟨_, _, rfl, fun Q hwp => interpret_of_wp hwp env⟩

theorem round_of_wp {I : Run Node σ Answer Payload ε Op Reply → Prop} (hphase : r.phase = .running)
    (h : (g.runAll r.thread.values r.answer r.thread.next).wp trace
      (fun calls result => I (finish g { r with calls := calls } result)) r.calls)
    (env : (o : Op) → Reply o) : I (r.round g env) := by
  obtain ⟨calls, result, hround, hwp⟩ := round_of_running (g := g) hphase env
  rw [hround]
  exact hwp _ h

theorem round_single {node : Node} (hphase : r.phase = .running) (hnext : r.thread.next = [node])
    (env : (o : Op) → Reply o) :
    r.round g env = finish g
      { r with calls := ((g.run node r.thread.values r.answer).interpret (record env) r.calls).2 }
      ((g.run node r.thread.values r.answer).interpret (record env) r.calls).1.result := by
  simp only [round, hphase, hnext, interpret_runAll_single]

theorem rounds_invariant {I : Run Node σ Answer Payload ε Op Reply → Prop}
    (keep : ∀ r env, I r → r.phase = .running → I (r.round g env))
    (envs : List ((o : Op) → Reply o)) {r : Run Node σ Answer Payload ε Op Reply} (h : I r) :
    I (r.rounds g envs) := by
  induction envs generalizing r with
  | nil => exact h
  | cons env envs ih =>
    apply ih
    by_cases hphase : r.phase = .running
    · exact keep r env h hphase
    · rw [round_of_phase hphase]
      exact h

theorem rounds_of_phase (h : r.phase ≠ .running) (envs : List ((o : Op) → Reply o)) :
    r.rounds g envs = r := by
  induction envs with
  | nil => rfl
  | cons env envs ih =>
    change (r.round g env).rounds g envs = r
    rw [round_of_phase h, ih]

theorem rounds_end {I : Run Node σ Answer Payload ε Op Reply → Prop}
    {left : Run Node σ Answer Payload ε Op Reply → Nat}
    (keep : ∀ r env, I r → r.phase = .running → I (r.round g env))
    (pos : ∀ r, I r → r.phase = .running → 0 < left r)
    (decrease : ∀ r env, I r → r.phase = .running → (r.round g env).phase = .running →
      left (r.round g env) < left r)
    {envs : List ((o : Op) → Reply o)} {r : Run Node σ Answer Payload ε Op Reply} (h : I r)
    (henough : left r ≤ envs.length) : (r.rounds g envs).phase ≠ .running := by
  induction envs generalizing r with
  | nil =>
    intro hphase
    have := pos r h hphase
    simp only [List.length_nil] at henough
    omega
  | cons env envs ih =>
    change ((r.round g env).rounds g envs).phase ≠ .running
    by_cases hphase : r.phase = .running
    · by_cases hround : (r.round g env).phase = .running
      · apply ih (keep r env h hphase)
        have := decrease r env h hphase hround
        simp only [List.length_cons] at henough
        omega
      · rw [rounds_of_phase hround]
        exact hround
    · rw [round_of_phase hphase, rounds_of_phase hphase]
      exact hphase

theorem resumed_finish (r : Run Node σ Answer Payload ε Op Reply)
    (result : Except ε (Except Payload σ)) : (r.finish g result).resumed = r.resumed := by
  obtain ⟨_, h⟩ | ⟨_, h⟩ | ⟨_, _, -, -, h⟩ := finish_cases g r result
  · rw [h]
    rfl
  · rw [h]
  · rw [h]
    rfl

theorem calls_finish (r : Run Node σ Answer Payload ε Op Reply)
    (result : Except ε (Except Payload σ)) : (r.finish g result).calls = r.calls := by
  obtain ⟨_, h⟩ | ⟨_, h⟩ | ⟨_, _, -, -, h⟩ := finish_cases g r result
  · rw [h]
    rfl
  · rw [h]
  · rw [h]
    rfl

theorem visited_finish {node : Node} {result : Except ε (Except Payload σ)} (h : node ∈ r.visited) :
    node ∈ (r.finish g result).visited := by
  obtain ⟨_, hfinish⟩ | ⟨_, hfinish⟩ | ⟨_, _, -, -, hfinish⟩ := finish_cases g r result
  · rw [hfinish]
    exact h
  · rw [hfinish]
    exact h
  · rw [hfinish]
    exact List.mem_append_left _ h

theorem visited_rounds {node : Node} (h : node ∈ r.visited) (envs : List ((o : Op) → Reply o)) :
    node ∈ (r.rounds g envs).visited := by
  refine rounds_invariant (I := fun r => node ∈ r.visited) ?_ envs h
  intro r env h hphase
  obtain ⟨calls, result, hround, -⟩ := round_of_running (g := g) hphase env
  rw [hround]
  exact visited_finish h

theorem raised_rounds (hanswer : r.answer = none) (hraised : r.thread.raised = none)
    (envs : List ((o : Op) → Reply o)) : (r.rounds g envs).thread.raised = none := by
  refine (rounds_invariant (I := fun r => r.answer = none ∧ r.thread.raised = none) ?_ envs
    ⟨hanswer, hraised⟩).2
  rintro r env ⟨hanswer, hraised⟩ hphase
  obtain ⟨calls, result, hround, -⟩ := round_of_running (g := g) hphase env
  rw [hround]
  obtain ⟨_, hfinish⟩ | ⟨_, hfinish⟩ | ⟨_, _, -, -, hfinish⟩ :=
    finish_cases g { r with calls := calls } result
  · rw [hfinish]
    exact ⟨hanswer, congrArg (Option.map _) hanswer⟩
  · rw [hfinish]
    exact ⟨hanswer, hraised⟩
  · rw [hfinish]
    exact ⟨rfl, rfl⟩

theorem resumed_rounds (envs : List ((o : Op) → Reply o)) :
    (r.rounds g envs).resumed = r.resumed := by
  refine rounds_invariant (I := fun r' => r'.resumed = r.resumed) ?_ envs rfl
  intro r' env h hphase
  obtain ⟨calls, result, hround, -⟩ := round_of_running (g := g) hphase env
  rw [hround, resumed_finish]
  exact h

end Run

end AgentsAtScale.StateGraph
