import SchemaDelta.Expr

/-!
# Building expressions on a stack

Operators take their operands from the top of a stack of expressions, the last operand first.
-/

namespace SchemaDelta

namespace Expr

/-- An instruction to a stack of expressions. -/
inductive Instruction where
  | push (e : Expr)
  | call (name : String) (count : Nat)
  | compare (op : Comparison)
  | uppercaseCalls

/-- Carries out an instruction on a stack, the top first; none if operands are missing. -/
def Instruction.run? : Instruction → List Expr → Option (List Expr)
  | push e, stack => some (e :: stack)
  | call name count, stack =>
    if count ≤ stack.length then
      some (.call name (stack.take count).reverse :: stack.drop count)
    else none
  | compare op, right :: left :: stack => some (.compare op left right :: stack)
  | uppercaseCalls, top :: stack => some (top.uppercaseCalls :: stack)
  | _, _ => none

end Expr

end SchemaDelta
