import MediaNaming.Catalog.Edit
import MediaNaming.Config.Load
import MediaNaming.Json.Printer
import MediaNaming.Naming
import MediaNaming.Proofs.Renaming
import MediaNaming.Proofs.SafeNameImage
import MediaNaming.Proofs.TemplatePieces
import MediaNaming.Proofs.Reading
import MediaNaming.Proofs.TestChain
import MediaNaming.Proofs.Negation
import MediaNaming.Proofs.FigureTest
import MediaNaming.Proofs.BlankField
import MediaNaming.Proofs.InertLine
import MediaNaming.Proofs.Forecast
import MediaNaming.Proofs.StockScript
import MediaNaming.Proofs.ConfigForm
import MediaNaming.Proofs.CommentStart
import MediaNaming.Proofs.PathTail
import MediaNaming.Proofs.BundleFormat
import MediaNaming.Proofs.Numeral
import MediaNaming.Proofs.JsonText
import MediaNaming.Proofs.EpisodeNumber
import MediaNaming.Proofs.TextVariant
import MediaNaming.Proofs.TokenGap
import MediaNaming.Proofs.SeriesIdentity
import MediaNaming.Proofs.TitleLength
import MediaNaming.Proofs.Fallback
import MediaNaming.Proofs.NameParts
import MediaNaming.Proofs.FrameSize
