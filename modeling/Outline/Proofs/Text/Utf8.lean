import Mathlib.Data.List.TakeWhile
import Outline.Text.Utf8

namespace Outline.Text.Utf8

variable {n : Nat}

end Outline.Text.Utf8
