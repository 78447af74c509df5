import UiToolkit.CommandLine.Run
import UiToolkit.Decimal.Numeric
import UiToolkit.Html.Style
import UiToolkit.Main
import UiToolkit.Proofs.BlockSafety
import UiToolkit.Proofs.Descendants
import UiToolkit.Proofs.Independence
import UiToolkit.Proofs.Outputs
import UiToolkit.Proofs.Overflow
import UiToolkit.Proofs.Precedence
import UiToolkit.Proofs.Reconversion
import UiToolkit.Proofs.Refusals
import UiToolkit.Proofs.Reports
import UiToolkit.Proofs.Representability
import UiToolkit.Proofs.SelectorStability
import UiToolkit.Proofs.StartTags
import UiToolkit.Proofs.StyleBlocks
import UiToolkit.Proofs.TranslatedValues
import UiToolkit.Proofs.WellFormedness
import UiToolkit.Settings.Fallbacks
import UiToolkit.Settings.Variables
import UiToolkit.StyleSheet.Listing
import UiToolkit.Uss.Log
import UiToolkit.Uxml.Log
import UiToolkit.Proofs.Strictness
import UiToolkit.Proofs.Assets
import UiToolkit.Proofs.CompositeNames
import UiToolkit.Proofs.ElementNames
import UiToolkit.Proofs.DroppedElements
import UiToolkit.Proofs.DocumentItems
import UiToolkit.Proofs.SharedTargets
import UiToolkit.Proofs.BalancedValues
import UiToolkit.Proofs.Progress
import UiToolkit.Proofs.MaximalSegments
import UiToolkit.Proofs.Neighbours
import UiToolkit.Proofs.Rearrangement
import UiToolkit.Proofs.LetterCase
import UiToolkit.Proofs.WholeSelectors
import UiToolkit.Proofs.Addresses
import UiToolkit.Proofs.FontPaths
import UiToolkit.Proofs.Captions
import UiToolkit.Proofs.Importance
import UiToolkit.Proofs.PixelTerms
import UiToolkit.Proofs.Scaling
import UiToolkit.Proofs.Comments
import UiToolkit.Proofs.Escaping
import UiToolkit.Proofs.Shadows
import UiToolkit.Proofs.Seams
import UiToolkit.Proofs.Wrappers
import UiToolkit.Proofs.Containment
import UiToolkit.Proofs.InlineStyles
