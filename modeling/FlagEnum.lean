import FlagEnum.Domain.Reader
import FlagEnum.Main
import FlagEnum.Program
import FlagEnum.Proofs.Drafts
import FlagEnum.Proofs.RoundTrip
import FlagEnum.Proofs.Upwards
import FlagEnum.Proofs.Arguments
import FlagEnum.Proofs.Output
import FlagEnum.Proofs.Switches
import FlagEnum.Proofs.Alike
import FlagEnum.Proofs.Precedence
import FlagEnum.Proofs.Grammar
import FlagEnum.Proofs.Skipping
import FlagEnum.Proofs.Entries
import FlagEnum.Proofs.Layout
import FlagEnum.Proofs.Selection
import FlagEnum.Proofs.Capacity
import FlagEnum.Proofs.Literal
import FlagEnum.Proofs.Completion
import FlagEnum.Proofs.Rounds
import FlagEnum.Proofs.FreeFlags
import FlagEnum.Proofs.Widening
import FlagEnum.Proofs.NameSearch
import FlagEnum.Proofs.FlagText
import FlagEnum.Proofs.Pattern
import FlagEnum.Proofs.Cells
import FlagEnum.Proofs.Decline
