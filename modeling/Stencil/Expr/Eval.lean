import Stencil.Context
import Stencil.Expr.Parser
import Stencil.Value.Operation

/-!
# Evaluation

The value of an expression in a context. What functions do is a parameter, so that evaluation does
not depend on which functions there are.

Every node of an expression is evaluated at a site of its own; an object that it makes is named by
that site.
-/

namespace Stencil

/-- The arguments of a call. -/
structure Arguments where
  positional : List Value
  keywords : Bindings Value

/-- What calling a function at a site yields. -/
abbrev Application := Function → Site → Arguments → Except EvalError Value

namespace Expr

mutual

/-- The value of an expression. -/
def evalWith (apply : Application) (ctx : Context) (site : Site) :
    Expr → Except EvalError Value
  | .literal l => .ok l.value
  | .name n =>
    match ctx.get? n with
    | some v => .ok v
    | none => .error (.unknownName n)
  | .access target field => do
    (← evalWith apply ctx (0 :: site) target).access field
  | .index target position => do
    let v ← evalWith apply ctx (0 :: site) target
    let i ← evalWith apply ctx (1 :: site) position
    v.subscript i
  | .call callee positional keywords => do
    match ← evalWith apply ctx (0 :: site) callee with
    | .callable _ f =>
      let values ← evalAll apply ctx (1 :: site) positional
      let named ← evalKeywords apply ctx (2 :: site) keywords
      apply f (3 :: site) ⟨values, named⟩
    | v => throw (.notCallable v.kind)
  | .list items => return .list (.made site) (← evalAll apply ctx (0 :: site) items)
  | .unary op operand => do
    (← evalWith apply ctx (0 :: site) operand).unary op
  | .binary op left right => do
    let l ← evalWith apply ctx (0 :: site) left
    let r ← evalWith apply ctx (1 :: site) right
    l.binary site op r
  | .compare first rest => do
    let v ← evalWith apply ctx (0 :: site) first
    return .bool (← evalChain apply ctx (1 :: site) v rest)
  | .and left right => do
    let l ← evalWith apply ctx (0 :: site) left
    if l.truthy then evalWith apply ctx (1 :: site) right else return l
  | .or left right => do
    let l ← evalWith apply ctx (0 :: site) left
    if l.truthy then return l else evalWith apply ctx (1 :: site) right
  | .conditional condition consequent alternative => do
    if (← evalWith apply ctx (0 :: site) condition).truthy then
      evalWith apply ctx (1 :: site) consequent
    else evalWith apply ctx (2 :: site) alternative

/-- The values of expressions in a row. -/
def evalAll (apply : Application) (ctx : Context) (site : Site) :
    List Expr → Except EvalError (List Value)
  | [] => .ok []
  | e :: es => do
    let v ← evalWith apply ctx (0 :: site) e
    return v :: (← evalAll apply ctx (1 :: site) es)

/-- The values of keyword arguments. -/
def evalKeywords (apply : Application) (ctx : Context) (site : Site) :
    List (String × Expr) → Except EvalError (Bindings Value)
  | [] => .ok []
  | (n, e) :: es => do
    let v ← evalWith apply ctx (0 :: site) e
    return (n, v) :: (← evalKeywords apply ctx (1 :: site) es)

/-- Whether each comparison of a chain holds. After the first that fails nothing more is
evaluated. -/
def evalChain (apply : Application) (ctx : Context) (site : Site) (left : Value) :
    List (CompareOp × Expr) → Except EvalError Bool
  | [] => .ok true
  | (op, e) :: rest => do
    let right ← evalWith apply ctx (0 :: site) e
    if ← left.compares op right then evalChain apply ctx (1 :: site) right rest
    else return false

end

/-- The value of the expression that a text is written for. Blanks around it do not count. -/
def evaluateWith (apply : Application) (ctx : Context) (site : Site) (text : String) :
    Except EvalError Value :=
  match parse (Text.trimmed text) with
  | .error e => .error (.badSyntax e)
  | .ok e => e.evalWith apply ctx site

end Expr

end Stencil
