import SplitScreen.Main
import SplitScreen.Proofs.Arena.Edits
import SplitScreen.Proofs.Arena.Planted
import SplitScreen.Proofs.Arena.Rooted
import SplitScreen.Proofs.Arena.WellFormed
import SplitScreen.Proofs.Captured
import SplitScreen.Proofs.Config
import SplitScreen.Proofs.DefaultProfile
import SplitScreen.Proofs.Double.Difference
import SplitScreen.Proofs.Double.Order
import SplitScreen.Proofs.Edit
import SplitScreen.Proofs.Entries
import SplitScreen.Proofs.Events
import SplitScreen.Proofs.Faithful
import SplitScreen.Proofs.Fallback
import SplitScreen.Proofs.Faults
import SplitScreen.Proofs.FrontEnd
import SplitScreen.Proofs.HitTest
import SplitScreen.Proofs.Idle
import SplitScreen.Proofs.Layout.Codec
import SplitScreen.Proofs.Layout.Grammar
import SplitScreen.Proofs.Listing
import SplitScreen.Proofs.ListingRun
import SplitScreen.Proofs.ListingText
import SplitScreen.Proofs.Pointing
import SplitScreen.Proofs.Precedence
import SplitScreen.Proofs.Printing
import SplitScreen.Proofs.Profile.Conditions
import SplitScreen.Proofs.Profile.Flatten
import SplitScreen.Proofs.Profile.Invariant
import SplitScreen.Proofs.Profile.Layout
import SplitScreen.Proofs.Profile.Literal
import SplitScreen.Proofs.Profile.Locality
import SplitScreen.Proofs.Profile.Navigation
import SplitScreen.Proofs.Profile.Nearest
import SplitScreen.Proofs.Profile.Numbering
import SplitScreen.Proofs.Profile.Outcome
import SplitScreen.Proofs.Profile.Panes
import SplitScreen.Proofs.Profile.Place
import SplitScreen.Proofs.Profile.Refinement
import SplitScreen.Proofs.Profile.Removal
import SplitScreen.Proofs.Profile.Rounding
import SplitScreen.Proofs.Profile.Scaling
import SplitScreen.Proofs.Profile.Side
import SplitScreen.Proofs.Profile.Step
import SplitScreen.Proofs.Profile.Twin
import SplitScreen.Proofs.Profile.Undo
import SplitScreen.Proofs.Profile.Valid
import SplitScreen.Proofs.Program
import SplitScreen.Proofs.Refusal
import SplitScreen.Proofs.Reload
import SplitScreen.Proofs.Restart
import SplitScreen.Proofs.Saving
import SplitScreen.Proofs.Screen.Delegation
import SplitScreen.Proofs.Screen.FullScreen
import SplitScreen.Proofs.Screen.Invariant
import SplitScreen.Proofs.Screen.Reachable
import SplitScreen.Proofs.Screen.Step
import SplitScreen.Proofs.Screen.Valid
import SplitScreen.Proofs.Settings
import SplitScreen.Proofs.Sharing
import SplitScreen.Proofs.Store
import SplitScreen.Proofs.Table
import SplitScreen.Proofs.Terminal
import SplitScreen.Proofs.Tiling
import SplitScreen.Proofs.Title
import SplitScreen.Proofs.Traversal
import SplitScreen.Proofs.Twin
import SplitScreen.Proofs.Untagged
import SplitScreen.Proofs.Wrap
import SplitScreen.Screen
import SplitScreen.Value
