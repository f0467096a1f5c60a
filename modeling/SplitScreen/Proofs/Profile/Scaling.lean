import Mathlib.Data.List.Forall2
import SplitScreen.Proofs.Route

namespace SplitScreen

namespace Rect

end Rect

namespace Tile

end Tile

namespace Profile

variable {p : Profile} {t : IndexedTree}

end Profile

end SplitScreen
