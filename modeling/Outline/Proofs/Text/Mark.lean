import Mathlib.Data.List.Infix
import Outline.Files
import Outline.Proofs.Text.Utf8
import Outline.Schema.Read

namespace Outline.Files

open Text.Utf8 (encode mark step)

end Outline.Files
