import SchemaDelta.Proofs.Expressions.Nodes
import SchemaDelta.Proofs.Uppercase

/-!
# Spelling of function names

A position tells how a node is reached from the root, child by child. The spine of an expression is
made of the calls to which calls alone lead. Putting the names at the root into upper case changes
the names on the spine, and nothing else: the tree keeps its shape, and whatever stands below another
node is the same as before. So the spelling of these names does not matter, and the compiler knows
one of them unless its upper case is missing in the catalogue.
-/

namespace SchemaDelta

namespace Expr

/-! ## Positions -/

/-- The expressions right below a node, from left to right. -/
def children : Expr → List Expr
  | literal _ => []
  | field _ => []
  | var _ => []
  | compare _ left right => [left, right]
  | and args => args
  | or args => args
  | not arg => [arg]
  | isNull arg => [arg]
  | call _ args => args

/-- The node at a position: the number of the child to go on with, again and again. -/
def at? : Expr → List Nat → Option Expr
  | e, [] => some e
  | e, i :: position => e.children[i]?.bind (·.at? position)

/-- The node at a position is a call, and so are all nodes on the way to it. -/
def OnSpine (e : Expr) (position : List Nat) : Prop :=
  ∀ above, above <+: position → ∃ name args, e.at? above = some (.call name args)

@[simp] theorem at?_nil (e : Expr) : e.at? [] = some e := rfl

@[simp] theorem at?_cons (e : Expr) (i : Nat) (position : List Nat) :
    e.at? (i :: position) = e.children[i]?.bind (·.at? position) := rfl

theorem sizeOf_lt_of_mem_children {e child : Expr} (member : child ∈ e.children) :
    sizeOf child < sizeOf e := by
  cases e <;> simp only [children, List.mem_cons, List.not_mem_nil, or_false] at member
  case compare op left right =>
    rcases member with rfl | rfl <;> simp only [compare.sizeOf_spec] <;> omega
  case not arg => simp only [member, not.sizeOf_spec]; omega
  case isNull arg => simp only [member, isNull.sizeOf_spec]; omega
  all_goals
    have smaller := List.sizeOf_lt_of_mem member
    simp only [and.sizeOf_spec, or.sizeOf_spec, call.sizeOf_spec]
    omega

/-- What holds of a node if it holds of its children holds of every expression. -/
theorem inductionOnChildren {motive : Expr → Prop}
    (node : ∀ e, (∀ child ∈ e.children, motive child) → motive e) (e : Expr) : motive e :=
  node e fun child _ => inductionOnChildren node child
termination_by sizeOf e
decreasing_by exact sizeOf_lt_of_mem_children ‹_›

theorem nodesOfArgs_eq_flatMap (args : List Expr) : nodesOfArgs args = args.flatMap nodes := by
  induction args with
  | nil => rfl
  | cons arg args ih => rw [nodesOfArgs, ih, List.flatMap_cons]

theorem nodes_eq (e : Expr) : e.nodes = e.children.flatMap nodes ++ [e] := by
  cases e <;> simp [nodes, children, nodesOfArgs_eq_flatMap]

/-- The nodes of an expression are those at its positions. -/
theorem mem_nodes_iff {e node : Expr} : node ∈ e.nodes ↔ ∃ position, e.at? position = some node := by
  induction e using inductionOnChildren with
  | node e ih =>
    rw [nodes_eq, List.mem_append, List.mem_flatMap, List.mem_singleton]
    constructor
    · rintro (⟨child, member, inside⟩ | rfl)
      · obtain ⟨i, found⟩ := List.mem_iff_getElem?.mp member
        obtain ⟨position, reached⟩ := (ih child member).mp inside
        exact ⟨i :: position, by rw [at?_cons, found, Option.bind_some, reached]⟩
      · exact ⟨[], rfl⟩
    · rintro ⟨position, reached⟩
      cases position with
      | nil => exact .inr (Option.some.inj reached).symm
      | cons i position =>
        obtain ⟨child, found, reached⟩ := Option.bind_eq_some_iff.mp reached
        have member := List.mem_of_getElem? found
        exact .inl ⟨child, member, (ih child member).mpr ⟨position, reached⟩⟩

/-! ## The spine -/

section Spine

variable {e : Expr} {position : List Nat}

/-- The root of a spine is a call. -/
theorem OnSpine.root (spine : e.OnSpine position) : ∃ name args, e = .call name args := by
  obtain ⟨name, args, found⟩ := spine [] (List.nil_prefix)
  exact ⟨name, args, Option.some.inj found⟩

theorem OnSpine.call (spine : e.OnSpine position) :
    ∃ name args, e.at? position = some (.call name args) :=
  spine position List.prefix_rfl

@[simp] theorem onSpine_call_nil (name : String) (args : List Expr) :
    (Expr.call name args).OnSpine [] := by
  intro above least
  rw [List.prefix_nil.mp least]
  exact ⟨name, args, rfl⟩

theorem onSpine_call_cons {name : String} {args : List Expr} {i : Nat} :
    (Expr.call name args).OnSpine (i :: position) ↔
      ∃ arg, args[i]? = some arg ∧ arg.OnSpine position := by
  constructor
  · intro spine
    obtain ⟨_, _, child⟩ := spine [i] (List.prefix_append [i] position)
    obtain ⟨arg, found, -⟩ := Option.bind_eq_some_iff.mp child
    refine ⟨arg, found, fun above least => ?_⟩
    obtain ⟨name, args, reached⟩ := spine (i :: above) ((List.prefix_cons_inj i).mpr least)
    rw [at?_cons, found, Option.bind_some] at reached
    exact ⟨name, args, reached⟩
  · rintro ⟨arg, found, spine⟩ above least
    cases above with
    | nil => exact ⟨name, args, rfl⟩
    | cons j above =>
      obtain ⟨rfl, shorter⟩ := List.cons_prefix_cons.mp least
      rw [at?_cons, children, found, Option.bind_some]
      exact spine above shorter

end Spine

/-! ## Names in upper case -/

theorem uppercaseCallsList_eq_map (args : List Expr) :
    uppercaseCallsList args = args.map uppercaseCalls := by
  induction args with
  | nil => rfl
  | cons arg args ih => rw [uppercaseCallsList, ih, List.map_cons]

theorem uppercaseCalls_call (name : String) (args : List Expr) :
    (call name args).uppercaseCalls = call (uppercase name) (args.map uppercaseCalls) := by
  rw [uppercaseCalls, uppercaseCallsList_eq_map]

theorem uppercaseCalls_of_not_call {e : Expr} (other : ∀ name args, e ≠ call name args) :
    e.uppercaseCalls = e := by
  cases e with
  | call name args => exact absurd rfl (other name args)
  | _ => rfl

/-- An expression is a call, or it stays as it is. -/
theorem call_or_uppercaseCalls_eq (e : Expr) :
    (∃ name args, e = call name args) ∨
      (∀ name args, e ≠ call name args) ∧ e.uppercaseCalls = e := by
  by_cases root : ∃ name args, e = call name args
  · exact .inl root
  · rw [not_exists] at root
    have other : ∀ name args, e ≠ call name args := fun name => not_exists.mp (root name)
    exact .inr ⟨other, uppercaseCalls_of_not_call other⟩

theorem uppercaseCalls_uppercaseCalls (e : Expr) :
    e.uppercaseCalls.uppercaseCalls = e.uppercaseCalls := by
  induction e using inductionOnChildren with
  | node e ih =>
    rcases call_or_uppercaseCalls_eq e with ⟨name, args, rfl⟩ | ⟨-, same⟩
    · rw [uppercaseCalls_call, uppercaseCalls_call, uppercase_uppercase, List.map_map]
      exact congrArg (call _) (List.map_congr_left ih)
    · rw [same, same]

variable {e : Expr} {position : List Nat}

/-- A call on the spine has its name in upper case, and its arguments are treated like roots. -/
theorem at?_uppercaseCalls_of_onSpine {name : String} {args : List Expr}
    (spine : e.OnSpine position) (reached : e.at? position = some (call name args)) :
    e.uppercaseCalls.at? position = some (call (uppercase name) (args.map uppercaseCalls)) := by
  induction position generalizing e with
  | nil =>
    obtain rfl := Option.some.inj reached
    rw [at?_nil, uppercaseCalls_call]
  | cons i position ih =>
    obtain ⟨root, rootArgs, rfl⟩ := spine.root
    obtain ⟨arg, found, spine⟩ := onSpine_call_cons.mp spine
    rw [at?_cons, children, found, Option.bind_some] at reached
    rw [uppercaseCalls_call, at?_cons, children, List.getElem?_map, found, Option.map_some,
      Option.bind_some]
    exact ih spine reached

/-- Elsewhere stands what stood there before, with everything below it. -/
theorem at?_uppercaseCalls_of_not_onSpine (off : ¬ e.OnSpine position) :
    e.uppercaseCalls.at? position = e.at? position := by
  induction position generalizing e with
  | nil =>
    rcases call_or_uppercaseCalls_eq e with ⟨name, args, rfl⟩ | ⟨-, same⟩
    · exact absurd (onSpine_call_nil name args) off
    · rw [same]
  | cons i position ih =>
    rcases call_or_uppercaseCalls_eq e with ⟨name, args, rfl⟩ | ⟨-, same⟩
    · rw [uppercaseCalls_call, at?_cons, at?_cons, children, children, List.getElem?_map]
      cases found : args[i]? with
      | none => rfl
      | some arg => exact ih fun spine => off (onSpine_call_cons.mpr ⟨arg, found, spine⟩)
    · rw [same]

theorem onSpine_uppercaseCalls : e.uppercaseCalls.OnSpine position ↔ e.OnSpine position := by
  constructor
  · intro spine above least
    by_cases already : e.OnSpine above
    · exact already.call
    · rw [← at?_uppercaseCalls_of_not_onSpine already]
      exact spine above least
  · intro spine above least
    obtain ⟨name, args, reached⟩ := spine above least
    exact ⟨_, _, at?_uppercaseCalls_of_onSpine (fun higher prior => spine higher (prior.trans least))
      reached⟩

/-! ## Other spellings -/

/-- Two expressions are the same but for names on the spine, which have the same upper case. -/
def SameButSpelling (e e' : Expr) : Prop :=
  ∀ position,
    (e.OnSpine position → ∃ name args name' args', e.at? position = some (.call name args) ∧
      e'.at? position = some (.call name' args') ∧ uppercase name = uppercase name') ∧
    (¬ e.OnSpine position → e'.at? position = e.at? position)

variable {e' : Expr}

theorem sameButSpelling_of_uppercaseCalls (same : e.uppercaseCalls = e'.uppercaseCalls) :
    e.SameButSpelling e' := by
  intro position
  have spines : e'.OnSpine position ↔ e.OnSpine position := by
    rw [← onSpine_uppercaseCalls, ← same, onSpine_uppercaseCalls]
  constructor
  · intro spine
    obtain ⟨name, args, reached⟩ := spine.call
    obtain ⟨name', args', reached'⟩ := (spines.mpr spine).call
    have upper := at?_uppercaseCalls_of_onSpine spine reached
    rw [same, at?_uppercaseCalls_of_onSpine (spines.mpr spine) reached'] at upper
    have names : uppercase name' = uppercase name := (call.inj (Option.some.inj upper)).1
    exact ⟨name, args, name', args', reached, reached', names.symm⟩
  · intro off
    rw [← at?_uppercaseCalls_of_not_onSpine off, same,
      at?_uppercaseCalls_of_not_onSpine (mt spines.mp off)]

/-- The same but for spelling are, of two calls, the arguments one by one. -/
theorem SameButSpelling.getElem? {name name' : String} {args args' : List Expr}
    (same : (call name args).SameButSpelling (call name' args')) (i : Nat) :
    Option.Rel SameButSpelling args[i]? args'[i]? := by
  -- the children stand at the positions of one step
  have child : ∀ (name : String) (args : List Expr), (call name args).at? [i] = args[i]? := by
    intro name args
    rw [at?_cons, children]
    cases args[i]? <;> rfl
  obtain ⟨on, off⟩ := same [i]
  rw [child, child] at on off
  cases found : args[i]? with
  | none =>
    have beyond : ¬ (call name args).OnSpine [i] := by
      rw [onSpine_call_cons, found]
      rintro ⟨arg, inside, -⟩
      cases inside
    rw [off beyond, found]
    exact .none
  | some arg =>
    obtain ⟨arg', found'⟩ : ∃ arg', args'[i]? = some arg' := by
      by_cases spine : (call name args).OnSpine [i]
      · obtain ⟨_, _, name', args', -, found', -⟩ := on spine
        exact ⟨_, found'⟩
      · exact ⟨arg, (off spine).trans found⟩
    rw [found']
    refine .some fun position => ?_
    have lower := same (i :: position)
    rw [onSpine_call_cons, at?_cons, at?_cons, children, children, found, found', Option.bind_some,
      Option.bind_some] at lower
    simpa using lower

theorem uppercaseCalls_of_sameButSpelling (same : e.SameButSpelling e') :
    e.uppercaseCalls = e'.uppercaseCalls := by
  induction e using inductionOnChildren generalizing e' with
  | node e ih =>
    obtain ⟨on, off⟩ := same []
    rcases call_or_uppercaseCalls_eq e with ⟨name, args, rfl⟩ | ⟨other, -⟩
    · obtain ⟨_, _, name', args', root, root', upper⟩ := on (onSpine_call_nil name args)
      obtain ⟨rfl, rfl⟩ := call.inj (Option.some.inj root)
      obtain rfl := Option.some.inj root'
      rw [uppercaseCalls_call, uppercaseCalls_call, upper]
      congr 1
      apply List.ext_getElem?
      intro i
      rw [List.getElem?_map, List.getElem?_map]
      have pair := same.getElem? i
      cases found : args[i]? with
      | none =>
        rw [found] at pair
        cases found' : args'[i]? with
        | none => rfl
        | some arg' => rw [found'] at pair; cases pair
      | some arg =>
        rw [found] at pair
        cases found' : args'[i]? with
        | none => rw [found'] at pair; cases pair
        | some arg' =>
          rw [found'] at pair
          cases pair with
          | some partner =>
            rw [Option.map_some, Option.map_some, ih arg (List.mem_of_getElem? found) partner]
    · have root : ¬ e.OnSpine [] := fun spine => by
        obtain ⟨name, args, same⟩ := spine.root
        exact other name args same
      rw [Option.some.inj (off root)]

/-- The second expression is the first one with the names on the spine in upper case. -/
structure UppercasesSpine (e e' : Expr) : Prop where
  shape : ∀ position,
    (e'.at? position).map (·.children.length) = (e.at? position).map (·.children.length)
  spine : ∀ position name args, e.OnSpine position → e.at? position = some (.call name args) →
    ∃ args', e'.at? position = some (.call (uppercase name) args')
  rest : ∀ position, ¬ e.OnSpine position → e'.at? position = e.at? position

theorem uppercasesSpine_uppercaseCalls (e : Expr) : e.UppercasesSpine e.uppercaseCalls where
  shape position := by
    by_cases spine : e.OnSpine position
    · obtain ⟨name, args, reached⟩ := spine.call
      rw [reached, at?_uppercaseCalls_of_onSpine spine reached]
      simp [children]
    · rw [at?_uppercaseCalls_of_not_onSpine spine]
  spine _ _ _ spine reached := ⟨_, at?_uppercaseCalls_of_onSpine spine reached⟩
  rest _ off := at?_uppercaseCalls_of_not_onSpine off

end Expr

/-! ## Functions outside the catalogue -/

/-- A name is in the catalogue if a function has it. -/
def InCatalogue (name : String) : Prop := ∃ function : SqlFunction, function.name = name

theorem SqlFunction.ofName?_eq_none_iff {name : String} :
    ofName? name = none ↔ ¬ InCatalogue name := by
  constructor
  · rintro missing ⟨function, rfl⟩
    rw [ofName?_name] at missing
    cases missing
  · intro missing
    cases found : ofName? name with
    | none => rfl
    | some function => exact absurd ⟨function, name_of_ofName? found⟩ missing

section Unknown

variable {scope : Scope} {unknown : String}

/-- A path fails for the sake of its fields and relations. -/
theorem Scope.path_ne_unknownFunction {table field : String} {others : List String} :
    scope.path table field others ≠ .error (.unknownFunction unknown) := by
  have column : ∀ table field, scope.column table field ≠ .error (.unknownFunction unknown) := by
    intro table field
    unfold Scope.column
    cases scope.schema.column? table field <;> simp
  induction others generalizing table field with
  | nil => exact column table field
  | cons next others ih =>
    intro failed
    rw [Scope.path] at failed
    split at failed
    · rename_i e first
      obtain rfl := Except.error.inj failed
      exact column table field first
    · split at failed
      · simp at failed
      · split at failed
        · rename_i e rest
          obtain rfl := Except.error.inj failed
          exact ih rest
        · cases failed

/-- A node fails for an unknown function if it is a call by a name outside the catalogue. -/
theorem fault?_eq_unknownFunction_iff {node : Expr} :
    scope.fault? node = some (.unknownFunction unknown) ↔
      (∃ args, node = .call unknown args) ∧ ¬ InCatalogue unknown := by
  cases node with
  | call name args =>
    rw [← SqlFunction.ofName?_eq_none_iff]
    cases found : SqlFunction.ofName? name with
    | none =>
      simp only [Scope.fault?, found, Option.some.injEq, CompileError.unknownFunction.injEq,
        Expr.call.injEq]
      constructor
      · rintro rfl
        exact ⟨⟨args, rfl, rfl⟩, found⟩
      · rintro ⟨⟨_, rfl, -⟩, -⟩
        rfl
    | some function =>
      simp only [Scope.fault?, found, Expr.call.injEq]
      refine iff_of_false ?_ ?_
      · split <;> simp
      · rintro ⟨⟨_, rfl, -⟩, missing⟩
        rw [found] at missing
        cases missing
  | field path =>
    simp only [Scope.fault?, failure?_eq_some_iff, Scope.path_ne_unknownFunction, reduceCtorEq,
      exists_false, false_and]
  | literal value =>
    simp only [Scope.fault?, failure?_eq_some_iff, Scope.literal]
    cases Constant.ofJson? value <;> simp
  | var name =>
    simp only [Scope.fault?]
    cases KeyedList.get? scope.bindings name <;> simp
  | _ => simp [Scope.fault?]

/-- A call whose arguments compile is unknown if its name is outside the catalogue. -/
theorem compileSql_call_eq_unknownFunction_iff {name : String} {args : List Expr}
    {sqls : List String} (compiled : compileSqlList scope args = .ok sqls) :
    compileSql scope (.call name args) = .error (.unknownFunction unknown) ↔
      unknown = name ∧ ¬ InCatalogue name := by
  have faultless : (Expr.nodesOfArgs args).findSome? scope.fault? = none := by
    rw [← failure?_compileSqlList, compiled]
    rfl
  rw [← failure?_eq_some_iff, failure?_compileSql, Expr.nodes, findSome?_append_node, faultless,
    Option.none_or, fault?_eq_unknownFunction_iff]
  constructor
  · rintro ⟨⟨_, same⟩, missing⟩
    obtain ⟨rfl, -⟩ := Expr.call.inj same
    exact ⟨rfl, missing⟩
  · rintro ⟨rfl, missing⟩
    exact ⟨⟨args, rfl⟩, missing⟩

/-- An unknown function is called somewhere. -/
theorem exists_call_of_unknownFunction {e : Expr}
    (failed : compileSql scope e = .error (.unknownFunction unknown)) :
    (∃ position args, e.at? position = some (.call unknown args)) ∧ ¬ InCatalogue unknown := by
  rw [← failure?_eq_some_iff, failure?_compileSql] at failed
  obtain ⟨node, member, faulty⟩ := List.exists_of_findSome?_eq_some failed
  obtain ⟨⟨args, rfl⟩, missing⟩ := fault?_eq_unknownFunction_iff.mp faulty
  obtain ⟨position, reached⟩ := Expr.mem_nodes_iff.mp member
  exact ⟨⟨position, args, reached⟩, missing⟩

end Unknown

/-! ## The spelling of calls -/

/-- Putting the names at the root into upper case changes the names on the spine and nothing else,
and doing it again changes nothing. Two expressions become the same exactly when they are the same
but for the spelling of such names. A call on the spine whose arguments compile is unknown to the
compiler exactly when the upper case of its name is outside the catalogue; and an unknown function is
always such a call, or one below another node, which kept its name. -/
theorem uppercaseCalls_spells_spine (e : Expr) :
    e.uppercaseCalls.uppercaseCalls = e.uppercaseCalls ∧
    e.UppercasesSpine e.uppercaseCalls ∧
    (∀ e', e.uppercaseCalls = e'.uppercaseCalls ↔ e.SameButSpelling e') ∧
    (∀ (scope : Scope) (position : List Nat) (name : String) (args : List Expr),
      e.OnSpine position → e.at? position = some (.call name args) →
      ∃ args', e.uppercaseCalls.at? position = some (.call (uppercase name) args') ∧
        ∀ (sqls : List String) (unknown : String), compileSqlList scope args' = .ok sqls →
          (compileSql scope (.call (uppercase name) args') = .error (.unknownFunction unknown) ↔
            unknown = uppercase name ∧ ¬ InCatalogue (uppercase name))) ∧
    (∀ (scope : Scope) (unknown : String),
      compileSql scope e.uppercaseCalls = .error (.unknownFunction unknown) →
      ¬ InCatalogue unknown ∧
        ((∃ position name args, e.OnSpine position ∧ e.at? position = some (.call name args) ∧
          unknown = uppercase name) ∨
        ∃ position args, ¬ e.OnSpine position ∧ e.at? position = some (.call unknown args))) := by
  refine ⟨e.uppercaseCalls_uppercaseCalls, e.uppercasesSpine_uppercaseCalls,
    fun e' => ⟨Expr.sameButSpelling_of_uppercaseCalls, Expr.uppercaseCalls_of_sameButSpelling⟩,
    ?onSpine, ?anywhere⟩
  case onSpine =>
    intro scope position name args spine reached
    refine ⟨_, Expr.at?_uppercaseCalls_of_onSpine spine reached, ?_⟩
    intro sqls unknown compiled
    exact compileSql_call_eq_unknownFunction_iff compiled
  case anywhere =>
    intro scope unknown failed
    obtain ⟨⟨position, args', reached⟩, missing⟩ := exists_call_of_unknownFunction failed
    refine ⟨missing, ?_⟩
    by_cases spine : e.OnSpine position
    · obtain ⟨name, args, before⟩ := spine.call
      rw [Expr.at?_uppercaseCalls_of_onSpine spine before] at reached
      obtain ⟨same, -⟩ := Expr.call.inj (Option.some.inj reached)
      exact .inl ⟨position, name, args, spine, before, same.symm⟩
    · rw [Expr.at?_uppercaseCalls_of_not_onSpine spine] at reached
      exact .inr ⟨position, args', spine, reached⟩

/-- A call below another node keeps its name, and so it is unknown in this spelling. -/
example :
    (Expr.call "lower" [.call "coaleſce" [], .not (.call "now" [])]).uppercaseCalls =
      .call "LOWER" [.call "COALESCE" [], .not (.call "now" [])] := by
  cbv

end SchemaDelta
