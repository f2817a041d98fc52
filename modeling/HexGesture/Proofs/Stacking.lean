import HexGesture.Operator.Stock

/-! What a run of operators leaves alone. An operator sees the values that it takes and nothing
below them, so a run that never finds the stack too short goes the same way whatever lies
beneath. -/
namespace HexGesture.Operator

variable {V E : Type}

section Step

variable (op : Operator V E) (env : Env)

theorem call_of_ne {args : List V} (h : args.length ≠ op.arity) :
    op.call args env = .error (.arityMismatch op.arity args.length) := by
  rw [call, dif_neg h]

theorem call_toList (args : Vector V op.arity) :
    op.call args.toList env = (op.execute args env).mapError .operator := by
  have hargs : (⟨args.toList.toArray, by simp⟩ : Vector V op.arity) = args := by
    rw [Vector.mk_eq]
    exact args.toArray.toArray_toList
  rw [call, dif_pos (by simp), hargs]
  cases op.execute args env <;> rfl

theorem runOn_of_lt {stack : List V} (h : stack.length < op.arity) :
    op.runOn stack env = (.error (.arityMismatch op.arity stack.length), stack) := by
  rw [runOn, if_pos h]

/-- Exactly the arguments are taken, deepest first, and what is given back takes their place. -/
theorem runOn_append (kept : List V) (args : Vector V op.arity) :
    op.runOn (kept ++ args.toList) env =
      match op.execute args env with
      | .ok (.values vs) => (.ok none, kept ++ vs)
      | .ok (.effect e) => (.ok (some e), kept)
      | .error why => (.error (.operator why), kept) := by
  have hlength : (kept ++ args.toList).length - op.arity = kept.length := by simp
  have henough : ¬ (kept ++ args.toList).length < op.arity := by simp
  rw [runOn, if_neg henough, hlength, List.take_left, List.drop_left, call_toList]
  rcases op.execute args env with why | (vs | e) <;> rfl

variable {op}

theorem exists_eq_append {stack : List V} (h : op.arity ≤ stack.length) :
    ∃ (kept : List V) (args : Vector V op.arity), stack = kept ++ args.toList := by
  refine ⟨stack.take (stack.length - op.arity),
    ⟨(stack.drop (stack.length - op.arity)).toArray, ?_⟩, ?_⟩
  · rw [List.size_toArray, List.length_drop]
    omega
  · simp

/-- One step does not look below its arguments. -/
theorem runOn_beneath {stack : List V} (h : op.arity ≤ stack.length) (beneath : List V) :
    op.runOn (beneath ++ stack) env =
      ((op.runOn stack env).1, beneath ++ (op.runOn stack env).2) := by
  obtain ⟨kept, args, rfl⟩ := exists_eq_append h
  rw [← List.append_assoc, runOn_append, runOn_append]
  rcases op.execute args env with why | (vs | e)
  · rfl
  · simp
  · rfl

end Step

/-- Operators one after another on the same stack, each run where it is asked for. -/
def runAll : List (Operator V E × Env) → List V →
    List (Except CallError (Option (Scheduled E))) × List V
  | [], stack => ([], stack)
  | (op, env) :: rest, stack =>
    let (result, stack) := op.runOn stack env
    let (results, stack) := runAll rest stack
    (result :: results, stack)

def Suffices (ops : List (Operator V E × Env)) (stack : List V) : Prop :=
  ∀ result ∈ (runAll ops stack).1, ∀ expected found,
    result ≠ .error (.arityMismatch expected found)

theorem Suffices.of_cons {op : Operator V E} {env : Env} {ops : List (Operator V E × Env)}
    {stack : List V} (h : Suffices ((op, env) :: ops) stack) :
    op.arity ≤ stack.length ∧ Suffices ops (op.runOn stack env).2 := by
  constructor
  · refine Nat.le_of_not_lt fun hshort => ?_
    have hfirst := runOn_of_lt op env hshort
    exact h (op.runOn stack env).1 List.mem_cons_self op.arity stack.length
      (congrArg Prod.fst hfirst)
  · exact fun result hr => h result (List.mem_cons_of_mem _ hr)

/-- A run does not look below what it takes. -/
theorem runAll_beneath {ops : List (Operator V E × Env)} {stack : List V}
    (h : Suffices ops stack) (beneath : List V) :
    runAll ops (beneath ++ stack) =
      ((runAll ops stack).1, beneath ++ (runAll ops stack).2) := by
  induction ops generalizing stack with
  | nil => rfl
  | cons first ops ih =>
    obtain ⟨op, env⟩ := first
    obtain ⟨henough, hrest⟩ := h.of_cons
    simp only [runAll, runOn_beneath env henough, ih hrest]

/-- The operators of the stock take their arguments out by number. They find them there. -/
theorem add_runOn (kept : List Float) (x y : Float) (env : Env) :
    (add : Operator Float E).runOn (kept ++ [x, y]) env = (.ok none, kept ++ [x + y]) :=
  runOn_append add env kept #v[x, y]

theorem scheduling_runOn (action : E) (kept : List Float) (x : Float) (env : Env) :
    (scheduling action).runOn (kept ++ [x]) env =
      if x < 0 then
        (.error (.operator (.invalidArgument 0 s!"negative cost {Decimal.ofFloat x}")), kept)
      else (.ok (some ⟨action, x.toUInt64, [sparkle]⟩), kept) := by
  have hexecute : (scheduling action).execute #v[x] env =
      if x < 0 then .error (.invalidArgument 0 s!"negative cost {Decimal.ofFloat x}")
      else .ok (.effect ⟨action, x.toUInt64, [sparkle]⟩) := rfl
  have hstep := runOn_append (scheduling action) env kept #v[x]
  rw [hexecute] at hstep
  by_cases hx : x < 0
  · rw [if_pos hx] at hstep ⊢
    exact hstep
  · rw [if_neg hx] at hstep ⊢
    exact hstep

theorem rejecting_runOn (kept args : List Float) (env : Env) :
    (rejecting args.length : Operator Float E).runOn (kept ++ args) env =
      (.error (.operator (.invalidArgument 0 "fixture always fails")), kept) :=
  runOn_append (rejecting args.length) env kept ⟨args.toArray, rfl⟩

/-- A run in which no operator is short of arguments gives the same results over any further values
and leaves these as they are. An operator that is short of them leaves the stack alone. -/
theorem runAll_frame (ops : List (Operator V E × Env)) (stack beneath : List V) :
    (Suffices ops stack → runAll ops (beneath ++ stack) =
      ((runAll ops stack).1, beneath ++ (runAll ops stack).2)) ∧
    (∀ (op : Operator V E) (env : Env) (s : List V),
      (s.length < op.arity ∧
        op.runOn s env = (.error (.arityMismatch op.arity s.length), s)) ∨
      ∃ (kept : List V) (args : Vector V op.arity), s = kept ++ args.toList ∧
        op.runOn s env =
          match op.execute args env with
          | .ok (.values vs) => (.ok none, kept ++ vs)
          | .ok (.effect e) => (.ok (some e), kept)
          | .error why => (.error (.operator why), kept)) ∧
    (∀ (op : Operator V E) (env : Env) (xs : List V),
      (xs.length ≠ op.arity ∧
        op.call xs env = .error (.arityMismatch op.arity xs.length)) ∨
      ∃ args : Vector V op.arity, xs = args.toList ∧
        op.call xs env = (op.execute args env).mapError .operator) ∧
    (∀ (env : Env) (kept : List Float),
      (∀ x y, (add : Operator Float E).runOn (kept ++ [x, y]) env =
        (.ok none, kept ++ [x + y])) ∧
      (∀ (action : E) (x : Float), (scheduling action).runOn (kept ++ [x]) env =
        if x < 0 then
          (.error (.operator (.invalidArgument 0 s!"negative cost {Decimal.ofFloat x}")), kept)
        else (.ok (some ⟨action, x.toUInt64, [sparkle]⟩), kept)) ∧
      ∀ args : List Float, (rejecting args.length : Operator Float E).runOn (kept ++ args) env =
        (.error (.operator (.invalidArgument 0 "fixture always fails")), kept)) := by
  refine ⟨fun h => runAll_beneath h beneath, ?_, ?_, ?_⟩
  · intro op env s
    rcases Nat.lt_or_ge s.length op.arity with hshort | henough
    · exact .inl ⟨hshort, runOn_of_lt op env hshort⟩
    · obtain ⟨kept, args, rfl⟩ := exists_eq_append henough
      exact .inr ⟨kept, args, rfl, runOn_append op env kept args⟩
  · intro op env xs
    by_cases h : xs.length = op.arity
    · exact .inr ⟨⟨xs.toArray, h⟩, rfl, call_toList op env ⟨xs.toArray, h⟩⟩
    · exact .inl ⟨h, call_of_ne op env h⟩
  · exact fun env kept => ⟨fun x y => add_runOn kept x y env,
      fun action x => scheduling_runOn action kept x env,
      fun args => rejecting_runOn kept args env⟩

end HexGesture.Operator
