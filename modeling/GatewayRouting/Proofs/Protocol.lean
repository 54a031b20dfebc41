import GatewayRouting.Resolution.Program

/-!
# Programs that keep to a protocol

What a program may ask for next depends on what it was answered so far. A *protocol* says which
requests are allowed after which events, and `Program.KeepsTo` says of a program that it asks for
nothing else, whatever it is answered, as long as the replies are granted. It also says what is
right for the program to end with.

Nothing in this mentions a state. The state comes in with an invariant (`KeepsTo.run`): if every
allowed request keeps the invariant, then a run keeps it, and ends with something right. The same
fact about a program serves a run on its own and a run among others.
-/

namespace GatewayRouting
namespace Program

variable {α β σ : Type}

@[simp] theorem bind_eq (program : Program α) (next : α → Program β) :
    program >>= next = program.bind next := rfl

@[simp] theorem pure_eq (value : α) : (pure value : Program α) = done value := rfl

@[simp] theorem request_bind (q : Request) (next : q.Reply → Program β) :
    (request q).bind next = ask q next := rfl

@[simp] theorem run_ask (handler : Handler σ) (q : Request) (next : q.Reply → Program α)
    (state : σ) :
    (ask q next).run handler state =
      (next (handler q state).1).run handler (handler q state).2 := rfl

@[simp] theorem trace_done (handler : Handler σ) (value : α) (state : σ) :
    (done value).trace handler state = [] := rfl

@[simp] theorem trace_ask (handler : Handler σ) (q : Request) (next : q.Reply → Program α)
    (state : σ) :
    (ask q next).trace handler state =
      ⟨q, (handler q state).1⟩ ::
        (next (handler q state).1).trace handler (handler q state).2 := rfl

/-! ## Keeping to a protocol -/

/-- A program asks only for what is allowed after the events in the past, as long as every reply is
granted, and ends with something right. -/
def KeepsTo (allows : List Event → Request → Prop) (grants : (q : Request) → q.Reply → Prop)
    (right : List Event → α → Prop) : List Event → Program α → Prop
  | past, done value => right past value
  | past, ask q next =>
    allows past q ∧
      ∀ reply, grants q reply → (next reply).KeepsTo allows grants right (past ++ [⟨q, reply⟩])

variable {allows : List Event → Request → Prop} {grants : (q : Request) → q.Reply → Prop}
  {right : List Event → α → Prop} {past : List Event}

@[simp] theorem keepsTo_done (value : α) :
    (done value).KeepsTo allows grants right past ↔ right past value := Iff.rfl

@[simp] theorem keepsTo_ask (q : Request) (next : q.Reply → Program α) :
    (ask q next).KeepsTo allows grants right past ↔
      allows past q ∧
        ∀ reply, grants q reply →
          (next reply).KeepsTo allows grants right (past ++ [⟨q, reply⟩]) := Iff.rfl

/-- More may be allowed, and less be right to end with. -/
theorem KeepsTo.imp {allows' : List Event → Request → Prop} {right' : List Event → α → Prop}
    {program : Program α} (keeps : program.KeepsTo allows grants right past)
    (allowed : ∀ past q, allows past q → allows' past q)
    (weaker : ∀ past value, right past value → right' past value) :
    program.KeepsTo allows' grants right' past := by
  induction program generalizing past with
  | done value => exact weaker past value keeps
  | ask q next ih =>
    exact ⟨allowed past q keeps.1, fun reply granted => ih reply (keeps.2 reply granted)⟩

/-- What is right to end with can be weakened. -/
theorem KeepsTo.mono {right' : List Event → α → Prop} {program : Program α}
    (keeps : program.KeepsTo allows grants right past)
    (weaker : ∀ past value, right past value → right' past value) :
    program.KeepsTo allows grants right' past :=
  keeps.imp (fun _ _ allowed => allowed) weaker

/-- One program after the other keeps to a protocol if the first does and the second goes on with
whatever the first may end with. -/
theorem KeepsTo.bind {middle : List Event → α → Prop} {right : List Event → β → Prop}
    {program : Program α} {next : α → Program β}
    (keeps : program.KeepsTo allows grants middle past)
    (goesOn : ∀ later value, past <+: later → middle later value →
      (next value).KeepsTo allows grants right later) :
    (program.bind next).KeepsTo allows grants right past := by
  induction program generalizing past with
  | done value => exact goesOn past value (List.prefix_refl past) keeps
  | ask q k ih =>
    refine ⟨keeps.1, fun reply granted => ih reply (keeps.2 reply granted) ?_⟩
    intro later value longer
    exact goesOn later value ((List.prefix_append _ _).trans longer)

/-! ## What a program asks for at all -/

/-- Whatever it is answered, a program asks only for what is allowed. -/
def Asks (allowed : Request → Prop) : Program α → Prop
  | done _ => True
  | ask q next => allowed q ∧ ∀ reply, (next reply).Asks allowed

theorem Asks.bind {allowed : Request → Prop} {program : Program α} {next : α → Program β}
    (asks : program.Asks allowed) (rest : ∀ value, (next value).Asks allowed) :
    (program.bind next).Asks allowed := by
  induction program with
  | done value => exact rest value
  | ask q k ih => exact ⟨asks.1, fun reply => ih reply (asks.2 reply)⟩

theorem Asks.mono {allowed allowed' : Request → Prop} {program : Program α}
    (asks : program.Asks allowed) (weaker : ∀ q, allowed q → allowed' q) :
    program.Asks allowed' := by
  induction program with
  | done value => trivial
  | ask q next ih => exact ⟨weaker q asks.1, fun reply => ih reply (asks.2 reply)⟩

/-- What each allowed request keeps, a run keeps. -/
theorem Asks.run {allowed : Request → Prop} {handler : Handler σ} {inv : σ → Prop}
    {program : Program α} {state : σ} (asks : program.Asks allowed)
    (step : ∀ q state, allowed q → inv state → inv (handler q state).2) (start : inv state) :
    inv (program.run handler state).2 := by
  induction program generalizing state with
  | done value => exact start
  | ask q next ih => exact ih _ (asks.2 _) (step q state asks.1 start)

/-- Each request of a run is allowed. -/
theorem Asks.allowed_of_mem_trace {allowed : Request → Prop} {handler : Handler σ}
    {program : Program α} {state : σ} {event : Event} (asks : program.Asks allowed)
    (mem : event ∈ program.trace handler state) : allowed event.request := by
  induction program generalizing state with
  | done value => cases mem
  | ask q next ih =>
    obtain rfl | mem := List.mem_cons.mp mem
    · exact asks.1
    · exact ih _ (asks.2 _) mem

/-- A program comes to its end with a value if it is answered as some events say. -/
inductive EndsAfter : Program α → List Event → α → Prop where
  /-- it is done -/
  | done (value : α) : EndsAfter (.done value) [] value
  /-- it is answered, and the rest comes to its end -/
  | ask {q : Request} {next : q.Reply → Program α} {reply : q.Reply} {events : List Event}
      {value : α} (rest : EndsAfter (next reply) events value) :
      EndsAfter (.ask q next) (⟨q, reply⟩ :: events) value

/-- Since some moment, only what is allowed was asked for. -/
def AskedSince (allowed : Request → Prop) (past now : List Event) : Prop :=
  ∃ during, now = past ++ during ∧ ∀ event ∈ during, allowed event.request

/-- A program that asks only for what is allowed keeps to that, and ends with what it was
answered. -/
theorem Asks.keepsTo {allowed : Request → Prop} {program : Program α}
    (asks : program.Asks allowed) (past : List Event) :
    program.KeepsTo (fun now q => AskedSince allowed past now ∧ allowed q) grants
      (fun now value => ∃ during, now = past ++ during ∧ program.EndsAfter during value ∧
        ∀ event ∈ during, allowed event.request) past := by
  -- some events may have come before the program's own
  suffices general : ∀ before, (∀ event ∈ before, allowed event.request) →
      program.KeepsTo (fun now q => AskedSince allowed past now ∧ allowed q) grants
        (fun now value => ∃ during, now = past ++ before ++ during ∧
          program.EndsAfter during value ∧ ∀ event ∈ during, allowed event.request)
        (past ++ before) by
    simpa using general []
  induction program with
  | done value => exact fun before _ => ⟨[], by simp, .done value, by simp⟩
  | ask q next ih =>
    intro before all
    refine ⟨⟨⟨before, rfl, all⟩, asks.1⟩, fun reply _ => ?_⟩
    have all' : ∀ event ∈ before ++ [⟨q, reply⟩], allowed event.request := by
      simpa [or_imp, forall_and] using ⟨all, asks.1⟩
    have rest := ih reply (asks.2 reply) (before ++ [⟨q, reply⟩]) all'
    rw [← List.append_assoc] at rest
    refine rest.mono ?_
    rintro _ value ⟨during, rfl, ends, all⟩
    refine ⟨⟨q, reply⟩ :: during, by simp, .ask ends, ?_⟩
    intro event mem
    obtain rfl | mem := List.mem_cons.mp mem
    · exact asks.1
    · exact all event mem

/-! ## Runs -/

/-- Every request of a run is answered in a state that follows a rule. -/
def Always (handler : Handler σ) (rule : Request → σ → Prop) : Program α → σ → Prop
  | done _, _ => True
  | ask q next, state =>
    rule q state ∧ (next (handler q state).1).Always handler rule (handler q state).2

theorem Always.mono {handler : Handler σ} {rule rule' : Request → σ → Prop} {program : Program α}
    {state : σ} (always : program.Always handler rule state)
    (weaker : ∀ q state, rule q state → rule' q state) :
    program.Always handler rule' state := by
  induction program generalizing state with
  | done value => trivial
  | ask q next ih => exact ⟨weaker q state always.1, ih _ always.2⟩

theorem always_of_forall {handler : Handler σ} {rule : Request → σ → Prop}
    (holds : ∀ q state, rule q state) (program : Program α) (state : σ) :
    program.Always handler rule state := by
  induction program generalizing state with
  | done value => trivial
  | ask q next ih => exact ⟨holds q state, ih _ _⟩

/-- A rule is followed by one program after the other if it is by both. -/
theorem always_bind {handler : Handler σ} {rule : Request → σ → Prop} {program : Program α}
    {next : α → Program β} {state : σ} :
    (program.bind next).Always handler rule state ↔
      program.Always handler rule state ∧
        (next (program.run handler state).1).Always handler rule
          (program.run handler state).2 := by
  induction program generalizing state with
  | done value => simp [Always]
  | ask q k ih => simp [Always, ih, and_assoc]

/-- Whether a rule is followed can be decided by running the program. -/
instance decidableAlways (handler : Handler σ) (rule : Request → σ → Prop)
    [∀ q state, Decidable (rule q state)] :
    (program : Program α) → (state : σ) → Decidable (program.Always handler rule state)
  | done _, _ => isTrue trivial
  | ask q next, state =>
    have := decidableAlways handler rule (next (handler q state).1) (handler q state).2
    inferInstanceAs (Decidable (_ ∧ _))

/-- **Runs keep invariants.** If each allowed request is granted and keeps an invariant that
relates the events so far to the state, then a whole run keeps it and ends with something right. -/
theorem KeepsTo.run {handler : Handler σ} {rule : Request → σ → Prop}
    {inv : List Event → σ → Prop} {program : Program α} {state : σ}
    (keeps : program.KeepsTo allows grants right past)
    (step : ∀ past q state, inv past state → allows past q → rule q state →
      grants q (handler q state).1 ∧ inv (past ++ [⟨q, (handler q state).1⟩]) (handler q state).2)
    (always : program.Always handler rule state) (start : inv past state) :
    right (past ++ program.trace handler state) (program.run handler state).1 ∧
      inv (past ++ program.trace handler state) (program.run handler state).2 := by
  induction program generalizing past state with
  | done value => simpa using ⟨keeps, start⟩
  | ask q next ih =>
    obtain ⟨granted, kept⟩ := step past q state start keeps.1 always.1
    have rest := ih _ (keeps.2 _ granted) always.2 kept
    simpa using rest

/-- A run keeps an invariant that needs no rule. -/
theorem KeepsTo.run_of_forall {handler : Handler σ} {inv : List Event → σ → Prop}
    {program : Program α} {state : σ} (keeps : program.KeepsTo allows grants right past)
    (step : ∀ past q state, inv past state → allows past q →
      grants q (handler q state).1 ∧ inv (past ++ [⟨q, (handler q state).1⟩]) (handler q state).2)
    (start : inv past state) :
    right (past ++ program.trace handler state) (program.run handler state).1 ∧
      inv (past ++ program.trace handler state) (program.run handler state).2 := by
  have always : program.Always handler (fun _ _ => True) state :=
    always_of_forall (fun _ _ => trivial) program state
  exact keeps.run (fun past q state kept allowed _ => step past q state kept allowed) always start

/-- Each request of a run was allowed when it was made. -/
theorem KeepsTo.allowed_of_mem_trace {handler : Handler σ} {program : Program α} {state : σ}
    {event : Event} (keeps : program.KeepsTo allows grants right past)
    (granted : ∀ q state, grants q (handler q state).1)
    (mem : event ∈ program.trace handler state) : ∃ past, allows past event.request := by
  induction program generalizing past state with
  | done value => cases mem
  | ask q next ih =>
    obtain rfl | mem := List.mem_cons.mp mem
    · exact ⟨past, keeps.1⟩
    · exact ih _ (keeps.2 _ (granted q state)) mem

end Program
end GatewayRouting
