-- Which method a call is of, where several of a type share its name. The first whose
-- parameters are just the types of the arguments is taken, or else the first that takes
-- them, and each argument is passed in the shape that the parameter asks for: an Int is
-- widened for a Long, and nothing else is changed.
import CommitQuery.Proofs.Plan.Typing

namespace CommitQuery

open Query

variable {κ ρ : Type}

/-! ## Methods that fit -/

/-- The first item of a list that has a property. -/
def IsFirst {α : Type} (P : α → Prop) (items : List α) (a : α) : Prop :=
  ∃ before after, items = before ++ a :: after ∧ P a ∧ ∀ b ∈ before, ¬ P b

theorem isFirst_of_find? {α : Type} {p : α → Bool} {P : α → Prop} {items : List α} {a : α}
    (iff : ∀ b ∈ items, p b = true ↔ P b) (h : items.find? p = some a) : IsFirst P items a := by
  obtain ⟨found, before, after, rfl, passed⟩ := List.find?_eq_some_iff_append.mp h
  refine ⟨before, after, rfl, (iff a (by simp)).mp found, fun b hb fits => ?_⟩
  have other := passed b hb
  rw [(iff b (by simp [hb])).mpr fits] at other
  cases other

theorem IsFirst.mem {α : Type} {P : α → Prop} {items : List α} {a : α} (h : IsFirst P items a) :
    a ∈ items ∧ P a := by
  obtain ⟨before, after, rfl, found, -⟩ := h
  exact ⟨by simp, found⟩

/-- The types of arguments that a parameter of a type takes: its own, an `Int` for a
`Long`, and Null for everything. -/
inductive ValueType.Takes : ValueType κ → ValueType κ → Prop
  | same (type : ValueType κ) : Takes type type
  | widened : Takes .long .int
  | null (type : ValueType κ) : Takes type .null

namespace Method

/-- Whether a call of a name with a number of arguments may be one of the method. -/
def Matches (m : Method κ ρ) (name : String) (arity : Nat) : Prop :=
  Text.equalsIgnoringAsciiCase m.name name = true ∧ m.parameters.length = arity

/-- Whether the method takes arguments of these types. -/
def Takes (m : Method κ ρ) (types : List (ValueType κ)) : Prop :=
  List.Forall₂ ValueType.Takes m.parameters types

theorem takes_parameters (m : Method κ ρ) : m.Takes m.parameters :=
  List.forall₂_same.mpr fun type _ => .same type

end Method

/-- The method among others that a call with arguments of these types is of. -/
def IsChosen (methods : List (Method κ ρ)) (name : String) (types : List (ValueType κ))
    (m : Method κ ρ) : Prop :=
  IsFirst (fun m => m.Matches name types.length ∧ m.parameters = types) methods m ∨
    (∀ other ∈ methods, other.Matches name types.length → other.parameters ≠ types) ∧
      IsFirst (fun m => m.Matches name types.length ∧ m.Takes types) methods m

theorem IsChosen.fits {methods : List (Method κ ρ)} {name : String} {types : List (ValueType κ)}
    {m : Method κ ρ} (h : IsChosen methods name types m) :
    m ∈ methods ∧ m.Matches name types.length ∧ m.Takes types := by
  rcases h with exact | ⟨-, widening⟩
  · obtain ⟨mem, named, rfl⟩ := exact.mem
    exact ⟨mem, named, m.takes_parameters⟩
  · exact widening.mem

namespace Plan

variable {S : Schema κ ρ}

/-! ## The candidates -/

theorem mem_findMethods {type : ValueType κ} {name : String} {arity : Nat} {m : Method κ ρ} :
    m ∈ S.findMethods type name arity ↔ m ∈ S.methodsOf type ∧ m.Matches name arity := by
  simp only [Schema.findMethods, Method.Matches, List.mem_filter, Bool.and_eq_true, beq_iff_eq]

/-- What is found first among the methods of a name is the first such of all methods. -/
theorem isFirst_findMethods {type : ValueType κ} {name : String} {arity : Nat}
    {p : Method κ ρ → Bool} {P : Method κ ρ → Prop} {m : Method κ ρ}
    (iff : ∀ m : Method κ ρ, m.Matches name arity → (p m = true ↔ P m))
    (h : (S.findMethods type name arity).find? p = some m) :
    IsFirst (fun m => m.Matches name arity ∧ P m) (S.methodsOf type) m := by
  rw [Schema.findMethods, List.find?_filter] at h
  refine isFirst_of_find? (fun m _ => ?_) h
  rw [decide_eq_true_iff, Bool.and_eq_true, beq_iff_eq]
  exact and_congr_right (iff m)

theorem isFirst_head_findMethods {type : ValueType κ} {name : String} {arity : Nat}
    {m : Method κ ρ} {more : List (Method κ ρ)} (h : S.findMethods type name arity = m :: more) :
    IsFirst (·.Matches name arity) (S.methodsOf type) m := by
  have found : (S.methodsOf type).find? (fun m =>
      Text.equalsIgnoringAsciiCase m.name name && m.parameters.length == arity) = some m := by
    rw [← List.head?_filter]
    exact congrArg List.head? h
  refine isFirst_of_find? (fun m _ => ?_) found
  rw [Bool.and_eq_true, beq_iff_eq]
  rfl

/-! ## Changes of width -/

theorem toInt?_changeWidth_long (v : Value κ ρ) : (changeWidth .long v).toInt? = v.toInt? := by
  cases v with
  | int n => exact congrArg some (Int32.toInt_toInt64 n)
  | _ => rfl

theorem admits_changeWidth_long {v : Value κ ρ} (h : S.Admits .int v) :
    S.Admits .long (changeWidth .long v) := by
  rcases h with rfl | type
  · exact .inl rfl
  · cases v with
    | int n => exact .inr rfl
    | _ => cases type

theorem run_convert (p : Plan κ ρ) (w : Width) (stack : List (Value κ ρ)) :
    (evaluate S (.convert p w)).run stack =
      Prod.map (Except.map (changeWidth w)) id ((evaluate S p).run stack) := by
  rw [evaluate]
  cases h : (evaluate S p).run stack with
  | mk result after =>
    cases result with
    | ok v =>
      rw [Run.run_bind_ok h]
      rfl
    | error e =>
      rw [Run.run_bind_error h]
      rfl

/-- How an argument is passed for a parameter. -/
structure Passes (S : Schema κ ρ) (argument : Plan κ ρ) (parameter : ValueType κ)
    (passed : Plan κ ρ) : Prop where
  /-- It has the type of the parameter, or it is Null. -/
  fits : passed.type S = parameter ∨ passed.type S = .null
  /-- It is the argument itself, but for an `Int` where a `Long` is asked for. -/
  widened : passed = argument ∨
    argument.type S = .int ∧ parameter = .long ∧ passed = .convert argument .long
  /-- It runs as the argument does, to the same integer or the same failure. -/
  sameNumber : ∀ stack, Prod.map (Except.map Value.toInt?) id ((evaluate S passed).run stack) =
    Prod.map (Except.map Value.toInt?) id ((evaluate S argument).run stack)
  /-- From a value that the type of the argument allows, what is passed is Null or a value of
  the type of the parameter. -/
  admits : ∀ stack v, ((evaluate S argument).run stack).1 = .ok v →
    S.Admits (argument.type S) v →
      ∃ w, ((evaluate S passed).run stack).1 = .ok w ∧ S.Admits parameter w

variable [DecidableEq κ]

/-! ## The choice -/

theorem accepts_iff {parameter argument : ValueType κ} :
    accepts parameter argument = true ↔ parameter.Takes argument := by
  simp only [accepts, Bool.or_eq_true, Bool.and_eq_true, decide_eq_true_eq]
  constructor
  · rintro ((rfl | ⟨rfl, rfl⟩) | rfl)
    · exact .same _
    · exact .widened
    · exact .null _
  · intro h
    cases h with
    | same => exact .inl (.inl rfl)
    | widened => exact .inl (.inr ⟨rfl, rfl⟩)
    | null => exact .inr rfl

theorem acceptsAll_iff {m : Method κ ρ} {types : List (ValueType κ)}
    (length : m.parameters.length = types.length) :
    acceptsAll m.parameters types = true ↔ m.Takes types := by
  simp only [acceptsAll, List.all_eq_true, accepts_iff]
  exact ⟨fun all => List.forall₂_iff_zip.mpr ⟨length, fun mem => all _ mem⟩,
    fun takes p mem => (List.forall₂_iff_zip.mp takes).2 mem⟩

theorem isChosen_of_chooseMethod? {type : ValueType κ} {name : String}
    {types : List (ValueType κ)} {m : Method κ ρ}
    (h : chooseMethod? (S.findMethods type name types.length) types = some m) :
    IsChosen (S.methodsOf type) name types m := by
  rcases Option.or_eq_some_iff.mp h with exact | ⟨none, widening⟩
  · exact .inl (isFirst_findMethods (fun _ _ => decide_eq_true_iff) exact)
  · refine .inr ⟨fun other mem named same => ?_,
      isFirst_findMethods (fun _ named => acceptsAll_iff named.2) widening⟩
    exact List.find?_eq_none.mp none other (mem_findMethods.mpr ⟨mem, named⟩)
      (decide_eq_true same)

theorem not_takes_of_chooseMethod? {type : ValueType κ} {name : String}
    {types : List (ValueType κ)}
    (h : chooseMethod? (S.findMethods type name types.length) types = none) :
    ∀ m ∈ S.methodsOf type, m.Matches name types.length → ¬ m.Takes types := by
  intro m mem named takes
  refine List.find?_eq_none.mp (Option.or_eq_none_iff.mp h).2 m
    (mem_findMethods.mpr ⟨mem, named⟩) ?_
  exact (acceptsAll_iff named.2).mpr takes

/-! ## The arguments -/

/-- An argument that is taken is changed in one case only. -/
theorem coerce_of_takes {argument : Plan κ ρ} {parameter : ValueType κ}
    (h : parameter.Takes (argument.type S)) : coerce S argument parameter = argument ∨
      argument.type S = .int ∧ parameter = .long ∧
        coerce S argument parameter = .convert argument .long := by
  generalize ht : argument.type S = type at h
  unfold coerce toWidth
  rw [ht]
  cases h with
  | same => cases parameter <;> exact .inl rfl
  | widened => exact .inr ⟨rfl, rfl, rfl⟩
  | null => exact .inl rfl

theorem passes_coerce {argument : Plan κ ρ} {parameter : ValueType κ}
    (h : parameter.Takes (argument.type S)) :
    Passes S argument parameter (coerce S argument parameter) := by
  have fits := type_coerce (accepts_iff.mpr h)
  rcases coerce_of_takes h with same | ⟨int, rfl, wider⟩
  · rw [same] at fits ⊢
    refine ⟨fits, .inl rfl, fun _ => rfl, fun _ v hv admits => ⟨v, hv, ?_⟩⟩
    rcases fits with type | null
    · exact type ▸ admits
    · exact Schema.Admits.of_null (null ▸ admits) parameter
  · refine ⟨fits, .inr ⟨int, rfl, wider⟩, fun stack => ?_, fun stack v hv admits => ?_⟩
    · rw [wider, run_convert]
      cases (evaluate S argument).run stack with
      | mk result after =>
        cases result with
        | ok v => exact congrArg (fun n => (Except.ok n, after)) (toInt?_changeWidth_long v)
        | error e => rfl
    · rw [wider, run_convert, Prod.map_fst, hv]
      exact ⟨_, rfl, admits_changeWidth_long (int ▸ admits)⟩

theorem forall₂_passes {arguments : List (Plan κ ρ)} {parameters : List (ValueType κ)}
    (h : List.Forall₂ ValueType.Takes parameters (arguments.map (·.type S))) :
    List.Forall₂ (fun pair passed => Passes S pair.1 pair.2 passed) (arguments.zip parameters)
      (arguments.zipWith (coerce S) parameters) := by
  induction arguments generalizing parameters with
  | nil => exact .nil
  | cons a more ih =>
    cases h with
    | cons taken rest => exact .cons (passes_coerce taken) (ih rest)

/-! ## What comes of a call -/

/-- What comes of a call of a method: no method of the type has the name, or none that
has it takes the arguments, or else one is chosen. -/
inductive Resolves (S : Schema κ ρ) (source : Plan κ ρ) (name : String)
    (arguments : List (Plan κ ρ)) : Except QueryError (Plan κ ρ) → Prop
  | unknown (none : ∀ m ∈ S.methodsOf (source.type S), ¬ m.Matches name arguments.length) :
      Resolves S source name arguments
        (.error (.methodNotFound name (S.typeName (source.type S))))
  | unfit {first : Method κ ρ}
      (named : IsFirst (·.Matches name arguments.length) (S.methodsOf (source.type S)) first)
      (none : ∀ m ∈ S.methodsOf (source.type S), m.Matches name arguments.length →
        ¬ m.Takes (arguments.map (·.type S))) :
      Resolves S source name arguments
        (.error (.argumentShape first.name ("arguments matching " ++ S.signature first)))
  | found {m : Method κ ρ} {passed : List (Plan κ ρ)}
      (chosen : IsChosen (S.methodsOf (source.type S)) name (arguments.map (·.type S)) m)
      (passes : List.Forall₂ (fun pair passed => Passes S pair.1 pair.2 passed)
        (arguments.zip m.parameters) passed) :
      Resolves S source name arguments (.ok (.invoke source m passed))

theorem resolves_ofCall (source : Plan κ ρ) (name : String) (arguments : List (Plan κ ρ)) :
    Resolves S source name arguments (ofCall S source name arguments) := by
  have length : (arguments.map (·.type S)).length = arguments.length := List.length_map ..
  unfold ofCall
  split
  · rename_i none
    refine .unknown fun m mem named => ?_
    have found := mem_findMethods.mpr ⟨mem, named⟩
    rw [none] at found
    cases found
  · rename_i first more candidates
    rw [← candidates]
    split
    · rename_i m chosen
      rw [← length] at chosen
      have chosen := isChosen_of_chooseMethod? chosen
      exact .found chosen (forall₂_passes chosen.fits.2.2)
    · rename_i none
      rw [← length] at none
      have none := not_takes_of_chooseMethod? none
      rw [length] at none
      exact .unfit (isFirst_head_findMethods candidates) none

/-! ## The law -/

variable {root : Root κ ρ} {scope : Scope κ} {element : Option (ValueType κ)}

theorem compileIn_methodCall {target : Expr} {arguments : List Expr} {name : String}
    {source : Plan κ ρ} {plans : List (Plan κ ρ)} (hv : target.isLambda = false)
    (hs : compileIn S root scope element target = .ok source)
    (ht : ∀ item, source.type S ≠ .sequence item)
    (ha : compileAll S root scope element arguments = .ok plans) :
    compileIn S root scope element (.call target name arguments) = ofCall S source name plans := by
  have value : requireValue .methodTarget target = .ok () := by
    rw [requireValue, hv]
    rfl
  rw [compileIn, value, hs, ha]
  cases type : source.type S with
  | sequence item => exact absurd type (ht item)
  | _ => simp only [type, bind, Except.bind]

/-- A call whose target and arguments compile, on a target that is no sequence. It names no
method exactly if no method of the type has its name and takes that many arguments. It has
the wrong arguments exactly if there are such methods and none takes them, and the error
shows the first of these. In every other case the method is chosen by the types of the
arguments, and they are passed as it asks for. -/
theorem a_call_is_of_the_first_method_that_fits (target : Expr) (name : String)
    (arguments : List Expr) (source : Plan κ ρ) (plans : List (Plan κ ρ))
    (hv : target.isLambda = false) (hs : compileIn S root scope element target = .ok source)
    (ht : ∀ item, source.type S ≠ .sequence item)
    (ha : compileAll S root scope element arguments = .ok plans) :
    let result := compileIn S root scope element (.call target name arguments)
    let methods := S.methodsOf (source.type S)
    let types := plans.map (·.type S)
    ((∃ n type, result = .error (.methodNotFound n type)) ↔
      ∀ m ∈ methods, ¬ m.Matches name plans.length) ∧
    ((∃ n shape, result = .error (.argumentShape n shape)) ↔
      (∃ m ∈ methods, m.Matches name plans.length) ∧
        ∀ m ∈ methods, m.Matches name plans.length → ¬ m.Takes types) ∧
    (∀ n shape, result = .error (.argumentShape n shape) →
      ∃ first, IsFirst (·.Matches name plans.length) methods first ∧ n = first.name ∧
        shape = "arguments matching " ++ S.signature first) ∧
    ((∃ m ∈ methods, m.Matches name plans.length ∧ m.Takes types) →
      ∃ m passed, result = .ok (.invoke source m passed) ∧ IsChosen methods name types m ∧
        List.Forall₂ (fun pair b => Passes S pair.1 pair.2 b) (plans.zip m.parameters) passed) := by
  intro result methods types
  have same : result = ofCall S source name plans := compileIn_methodCall hv hs ht ha
  have resolves := resolves_ofCall (S := S) source name plans
  rw [← same] at resolves
  clear_value result
  cases resolves with
  | unknown none =>
    refine ⟨iff_of_true ⟨_, _, rfl⟩ none, iff_of_false ?_ ?_, ?_, ?_⟩
    · rintro ⟨n, shape, ⟨⟩⟩
    · rintro ⟨⟨m, mem, named⟩, -⟩
      exact none m mem named
    · rintro n shape ⟨⟩
    · rintro ⟨m, mem, named, -⟩
      exact absurd named (none m mem)
  | @unfit first named none =>
    refine ⟨iff_of_false ?_ ?_, iff_of_true ⟨_, _, rfl⟩ ⟨⟨first, named.mem⟩, none⟩, ?_, ?_⟩
    · rintro ⟨n, type, ⟨⟩⟩
    · intro none
      exact none first named.mem.1 named.mem.2
    · rintro n shape ⟨⟩
      exact ⟨first, named, rfl, rfl⟩
    · rintro ⟨m, mem, named, takes⟩
      exact absurd takes (none m mem named)
  | @found m passed chosen passes =>
    obtain ⟨mem, named, takes⟩ := chosen.fits
    rw [List.length_map] at named
    refine ⟨iff_of_false ?_ ?_, iff_of_false ?_ ?_, ?_, ?_⟩
    · rintro ⟨n, type, ⟨⟩⟩
    · intro none
      exact none m mem named
    · rintro ⟨n, shape, ⟨⟩⟩
    · rintro ⟨-, none⟩
      exact none m mem named takes
    · rintro n shape ⟨⟩
    · exact fun _ => ⟨m, passed, rfl, chosen, passes⟩

/-- A method of counters that compares them with a number. -/
def counterTest (parameter : ValueType Unit) : Method Unit Int64 where
  name := "AtLeast"
  parameters := [parameter]
  returns := .bool
  call receiver arguments :=
    match receiver, arguments with
    | .record r _, [argument] => .ok (.bool (argument.toInt?.any (· ≤ r.toInt)))
    | _, _ => .error "a counter and a number are needed"

/-- Counters, with a method for numbers of each width. -/
def counters : Schema Unit Int64 where
  kindOf _ := ()
  nameOf _ := "Counter"
  members _ := []
  methods _ := [counterTest .long, counterTest .int]

/-- An `Int` goes to the second method as it is, and not to the first as a `Long`. -/
theorem a_method_of_its_own_width_is_called :
    let root : Root Unit Int64 := ⟨"Counters", .record (), []⟩
    let target : Expr := .call (.name "Counters") "First" []
    let three : Plan Unit Int64 := .constant (.int 3)
    target.isLambda = false ∧
      ∃ source, compileIn counters root [] none target = .ok source ∧
        (∀ item, source.type counters ≠ .sequence item) ∧
        compileAll counters root [] none [.number 3] = .ok [three] ∧
        (counterTest .long).Takes [three.type counters] ∧
        ∃ m, compileIn counters root [] none (.call target "atleast" [.number 3]) =
          .ok (.invoke source m [three]) ∧ m.parameters = [.int] := by
  intro root target three
  have hs : compileIn counters root [] none target =
      .ok (.find (.constant root.value) .first) := by
    rfl
  have ht : ∀ item, (Plan.find (.constant root.value) .first).type counters ≠ .sequence item := by
    rintro item ⟨⟩
  have ha : compileAll counters root [] none [.number 3] = .ok [three] := rfl
  have takes : (counterTest .long).Takes [three.type counters] := .cons .widened .nil
  have spelled : Text.equalsIgnoringAsciiCase "AtLeast" "atleast" = true := by decide
  have named : ∀ width, (counterTest width).Matches "atleast" 1 := fun _ => ⟨spelled, rfl⟩
  obtain ⟨m, passed, call, chosen, passes⟩ :=
    (a_call_is_of_the_first_method_that_fits target "atleast" [.number 3] _ [three] rfl hs ht
      ha).2.2.2 ⟨counterTest .long, List.mem_cons_self, named .long, takes⟩
  have own : m.parameters = [.int] := by
    rcases chosen with exact | ⟨none, -⟩
    · exact exact.mem.2.2
    · exact absurd rfl (none (counterTest .int) (List.mem_cons_of_mem _ List.mem_cons_self)
        (named .int))
  rw [own] at passes
  obtain ⟨b, more, first, rest, rfl⟩ := List.forall₂_cons_left_iff.mp passes
  obtain rfl := List.forall₂_nil_left_iff.mp rest
  rcases first.widened with rfl | ⟨-, other, -⟩
  · exact ⟨rfl, _, hs, ht, ha, takes, m, call, own⟩
  · cases other

end Plan

end CommitQuery
