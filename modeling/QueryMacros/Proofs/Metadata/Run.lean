import QueryMacros.Proofs.Metadata.Watching

/-!
# Runs of a provider

A run is any sequence of requests to a provider, of its being cleared, and of changes
behind it. A change turns the state of the source into any other, so the data may differ
from one lookup to the next, and a source may answer with faults for a while.

The past of a run keeps the successes since the provider was last cleared, as they are
seen from outside: the calls of a request that succeed, then the request itself. So the
columns that are fetched on behalf of a request for keys are a success of their own. The
past decides what happens next. A request that has succeeded is answered as it was the
first time and does nothing else; any other one goes to the source.
-/
namespace QueryMacros.Metadata

variable {σ : Type}

/-! ## Successes -/

/-- A request that succeeded, and its answer. -/
structure Success where
  request : Request
  answer : request.Answer

/-- The success of a request, if its outcome is one. -/
def successes (request : Request) : Except Fault request.Answer → List Success
  | .ok answer => [⟨request, answer⟩]
  | .error _ => []

/-- The successes among calls. -/
def called (calls : List Call) : List Success :=
  calls.flatMap fun call => successes (.query call.query) call.outcome

/-- The answer of the first success of a request. -/
def first? : List Success → (request : Request) → Option request.Answer
  | [], _ => none
  | success :: later, request =>
      if same : success.request = request then some (same ▸ success.answer)
      else first? later request

/-- The first answer of a request is one of the past. -/
theorem mem_of_first? {past : List Success} {request : Request} {answer : request.Answer}
    (found : first? past request = some answer) : ⟨request, answer⟩ ∈ past := by
  induction past with
  | nil => simp [first?] at found
  | cons success later inductionHypothesis =>
    rw [first?] at found
    split at found
    · next same =>
      subst same
      obtain rfl := Option.some.inj found
      exact List.mem_cons_self
    · exact List.mem_cons_of_mem _ (inductionHypothesis found)

/-- Without a first answer, the past has none for the request. -/
theorem not_mem_of_first? {past : List Success} {request : Request}
    (missing : first? past request = none) (answer : request.Answer) :
    ⟨request, answer⟩ ∉ past := by
  induction past with
  | nil => exact List.not_mem_nil
  | cons success later inductionHypothesis =>
    rw [first?] at missing
    split at missing
    · simp at missing
    · next different =>
      intro member
      rcases List.mem_cons.1 member with rfl | member
      · exact different rfl
      · exact inductionHypothesis missing member

/-- A memory stands for the past: all that has succeeded is remembered as it was
answered, and all that is remembered has succeeded. -/
structure Agrees (memory : Memory) (past : List Success) : Prop where
  remembered : ∀ success ∈ past, memory.recalled? success.request = some success.answer
  succeeded : ∀ request answer, memory.recalled? request = some answer → ⟨request, answer⟩ ∈ past

namespace Agrees

variable {memory : Memory} {past : List Success}

/-- At the start nothing has succeeded, and nothing is remembered. -/
theorem nil : Agrees .empty [] where
  remembered := by simp
  succeeded := by simp

/-- What is recalled is the answer of the first success. -/
theorem recalled?_eq_first? (agrees : Agrees memory past) (request : Request) :
    memory.recalled? request = first? past request := by
  cases found : first? past request with
  | some answer => exact agrees.remembered _ (mem_of_first? found)
  | none =>
    cases recalled : memory.recalled? request with
    | none => rfl
    | some answer =>
      exact absurd (agrees.succeeded request answer recalled) (not_mem_of_first? found answer)

/-- A success that repeats what is remembered changes nothing. -/
theorem repeated (agrees : Agrees memory past) {request : Request} {answer : request.Answer}
    (known : memory.recalled? request = some answer) :
    Agrees memory (past ++ [⟨request, answer⟩]) where
  remembered success member := by
    rcases List.mem_append.1 member with earlier | latest
    · exact agrees.remembered success earlier
    · obtain rfl := List.mem_singleton.1 latest
      exact known
  succeeded other value recalled :=
    List.mem_append_left _ (agrees.succeeded other value recalled)

/-- A new outcome is remembered where it is a success. -/
theorem settle (agrees : Agrees memory past) {request : Request}
    (unknown : memory.recalled? request = none) (outcome : Except Fault request.Answer) :
    Agrees (memory.settle request outcome) (past ++ successes request outcome) := by
  cases outcome with
  | error fault =>
    rw [successes, List.append_nil]
    exact agrees
  | ok answer =>
    have latest := memory.recalled?_remember_self request answer
    constructor
    · intro success member
      rcases List.mem_append.1 member with earlier | new
      · have recalled := agrees.remembered success earlier
        have different : success.request ≠ request := by
          rintro rfl
          rw [unknown] at recalled
          cases recalled
        exact (memory.recalled?_remember_of_ne answer different).trans recalled
      · obtain rfl := List.mem_singleton.1 new
        exact latest
    · intro other value recalled
      by_cases same : other = request
      · subst same
        obtain rfl := Option.some.inj (latest.symm.trans recalled)
        exact List.mem_append_right _ List.mem_cons_self
      · have earlier := (memory.recalled?_remember_of_ne answer same).symm.trans recalled
        exact List.mem_append_left _ (agrees.succeeded other value earlier)

end Agrees

/-! ## Runs -/

/-- What can happen to a provider. -/
inductive Event (σ : Type) where
  | ask (request : Request)
  | clear
  /-- Something behind the provider changes the state of the source. -/
  | change (change : σ → σ)

/-- A provider in a run: its memory and the state of its source, and its past. -/
structure Reached (σ : Type) where
  here : Remembering σ
  past : List Success

namespace Reached

/-- A provider that has not been asked. -/
def start (state : σ) : Reached σ := ⟨.start state, []⟩

/-- What an event leaves behind. -/
def step (provider : Provider σ) (reached : Reached σ) : Event σ → Reached σ
  | .ask request =>
      let seen := provider.watch request reached.here
      ⟨seen.after, reached.past ++ called seen.calls ++ successes request seen.answer⟩
  | .clear => ⟨reached.here.clear, []⟩
  | .change change => ⟨{ reached.here with state := change reached.here.state }, reached.past⟩

/-- What a sequence of events leaves behind. -/
def run (provider : Provider σ) (reached : Reached σ) (events : List (Event σ)) : Reached σ :=
  events.foldl (step provider) reached

variable {provider : Provider σ} {reached : Reached σ}

/-- The call of a query leaves the memory in step with the past. -/
theorem agrees_called (provider : Provider σ)
    (agrees : Agrees reached.here.memory reached.past) (query : Query) :
    let seen := provider.watch (.query query) reached.here
    Agrees seen.after.memory (reached.past ++ called seen.calls) := by
  cases recalled : reached.here.memory.recalled? (.query query) with
  | some answer => simpa [provider.watch_of_recalled recalled, called] using agrees
  | none =>
    cases asked : provider.source.ask query reached.here.state with
    | mk outcome final =>
      simpa [provider.watch_query_of_unknown recalled asked, called] using
        agrees.settle recalled outcome

/-- A request leaves the memory in step with the past. -/
theorem agrees_ask (agrees : Agrees reached.here.memory reached.past) (request : Request) :
    Agrees (reached.step provider (.ask request)).here.memory
      (reached.step provider (.ask request)).past := by
  cases recalled : reached.here.memory.recalled? request with
  | some answer =>
    rw [step, provider.watch_of_recalled recalled]
    simpa [called, successes] using agrees.repeated recalled
  | none =>
    cases request with
    | query query =>
      have settled := agrees_called provider agrees query
      cases asked : provider.source.ask query reached.here.state with
      | mk outcome final =>
        rw [step, provider.watch_query_of_unknown recalled asked] at *
        -- The call and the request are one success, noted twice.
        cases outcome with
        | error fault => simpa [successes] using settled
        | ok answer =>
          have known := reached.here.memory.recalled?_remember_self (.query query) answer
          exact settled.repeated known
    | keys name =>
      rw [step, provider.watch_keys_of_unknown recalled]
      have fetched := agrees_called provider agrees (provider.columnsOf name)
      have unknown := provider.recalled?_keys_query (provider.columnsOf name) reached.here name
      exact fetched.settle (unknown.trans recalled) _

/-- Whatever happens, the memory stands for the past. -/
theorem agrees_step (agrees : Agrees reached.here.memory reached.past) (event : Event σ) :
    Agrees (reached.step provider event).here.memory (reached.step provider event).past := by
  cases event with
  | ask request => exact agrees_ask agrees request
  | clear => exact Agrees.nil
  | change change => exact agrees

/-- Memory and past agree after every sequence of events. -/
theorem agrees_run (agrees : Agrees reached.here.memory reached.past) (events : List (Event σ)) :
    Agrees (reached.run provider events).here.memory (reached.run provider events).past := by
  induction events generalizing reached with
  | nil => exact agrees
  | cons event events inductionHypothesis => exact inductionHypothesis (agrees_step agrees event)

/-- At every point of a run, the past decides what a request does. If it has succeeded,
its first answer is given again, without a call and without a change. A query that has not
is one call to the source, whose outcome is handed on and remembered if it is an answer.
Keys that have not succeeded do what the query for the columns of the table does, which is
one call unless these columns have succeeded, and are remembered beside them; a fault
leaves the memory as it was. What is remembered is what has succeeded, so the past tells
which of the cases of a request applies. -/
theorem watch_run (provider : Provider σ) (state : σ) (events : List (Event σ)) :
    let reached := (start state).run provider events
    (∀ request, provider.ask request reached.here =
      ((provider.watch request reached.here).answer,
        (provider.watch request reached.here).after)) ∧
    (∀ request answer, first? reached.past request = some answer →
      provider.watch request reached.here = ⟨.ok answer, [], reached.here⟩) ∧
    (∀ query, first? reached.past (.query query) = none → ∃ outcome final,
      provider.source.ask query reached.here.state = (outcome, final) ∧
        provider.watch (.query query) reached.here = ⟨outcome, [⟨query, outcome⟩],
          ⟨reached.here.memory.settle (.query query) outcome, final⟩⟩) ∧
    ∀ name, first? reached.past (.keys name) = none →
      let columns := provider.columnsOf name
      let asked := provider.watch (.query columns) reached.here
      let seen := provider.watch (.keys name) reached.here
      seen = ⟨asked.answer.map toKeys, asked.calls,
          ⟨asked.after.memory.settle (.keys name) (asked.answer.map toKeys),
            asked.after.state⟩⟩ ∧
        seen.calls.length = (if (first? reached.past (.query columns)).isSome then 0 else 1) ∧
        ∀ fault, seen.answer = .error fault → seen.after.memory = reached.here.memory := by
  intro reached
  have agrees : Agrees reached.here.memory reached.past := agrees_run Agrees.nil events
  have recalls := agrees.recalled?_eq_first?
  refine ⟨fun request => provider.ask_eq_watch request reached.here, ?_, ?_, ?_⟩
  · intro request answer succeeded
    exact provider.watch_of_recalled ((recalls request).trans succeeded)
  · intro query unsettled
    exact ⟨_, _, rfl, provider.watch_query_of_unknown ((recalls _).trans unsettled) rfl⟩
  -- Keys that are not remembered are made from the columns, which may be remembered or not.
  · intro name unsettled columns asked seen
    have whole := provider.watch_keys_of_unknown ((recalls _).trans unsettled)
    refine ⟨whole, ?_, ?_⟩
    · rw [← recalls, ← provider.length_calls_query columns reached.here]
      exact congrArg (·.calls.length) whole
    · intro fault failed
      have mapped : asked.answer.map toKeys = .error fault :=
        (congrArg Seen.answer whole).symm.trans failed
      have left : seen.after.memory =
          asked.after.memory.settle (.keys name) (asked.answer.map toKeys) :=
        congrArg (·.after.memory) whole
      rw [left, mapped]
      cases answered : asked.answer with
      | ok columns => simp [answered, Except.map] at mapped
      | error fault => exact provider.memory_query_of_fault answered

end Reached

end QueryMacros.Metadata
