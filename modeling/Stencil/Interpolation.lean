import Stencil.Expr.Eval
import Stencil.Segment
import Stencil.Value.Text

/-!
# Texts with expressions in them

A text is cut into segments, the expressions are evaluated, and the values are joined. An
expression that has no value counts as absent, so that one bad expression does not spoil a page.
-/

namespace Stencil

/-- A value, and the error that it stands in for, if any. -/
structure Soft where
  value : Value
  error? : Option EvalError

namespace Expr

/-- The value of the expression that a text is written for, absent on an error. -/
def softlyWith (apply : Application) (ctx : Context) (site : Site) (text : String) : Soft :=
  match evaluateWith apply ctx site text with
  | .ok v => ⟨v, none⟩
  | .error e => ⟨.null, some e⟩

end Expr

namespace Segment

/-- The value of a segment. -/
def valueWith (apply : Application) (ctx : Context) (site : Site) : Segment → Value
  | literal text => .str text
  | expression text => (Expr.softlyWith apply ctx site text).value

/-- The values of segments in a row. -/
def valuesWith (apply : Application) (ctx : Context) (site : Site) (segments : List Segment) :
    List Value :=
  segments.mapIdx fun i s => s.valueWith apply ctx (i :: site)

/-- The value of a text with expressions in it. -/
def interpolateWith (apply : Application) (ctx : Context) (site : Site) (text : String) : Value :=
  Value.join (valuesWith apply ctx site (parse text))

end Segment

end Stencil
