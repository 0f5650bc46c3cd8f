import Sm83Cost.Text.Case.Upper
import Sm83Cost.Text.Case.Lower

/-!
# Letter case

Mnemonics, names and keys are compared in capitals, settings and file suffixes
in small letters.  Both maps are the full ones: a letter may become several.
-/

namespace Sm83Cost.Text

set_option autoImplicit false

/-- The text in capitals. -/
def upper (text : Text) : Text :=
  text.flatMap Case.capital

/-- The text in small letters. -/
def lower (text : Text) : Text :=
  Case.lowerAfter [] text

end Sm83Cost.Text
