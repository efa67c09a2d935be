import ApiTypings.Main
import ApiTypings.Store.Memory
import ApiTypings.Proofs.Fetching
import ApiTypings.Proofs.Turns
import ApiTypings.Proofs.Accounting
import ApiTypings.Proofs.FileNames
import ApiTypings.Proofs.StoreLaws
import ApiTypings.Proofs.StoreEffect
import ApiTypings.Proofs.Collisions
import ApiTypings.Proofs.TypeReader
import ApiTypings.Proofs.TypeRoundTrip
import ApiTypings.Proofs.Conformance
import ApiTypings.Proofs.FetchOrder
import ApiTypings.Proofs.Scheduling
import ApiTypings.Proofs.Cancellation
import ApiTypings.Proofs.Unwritten
import ApiTypings.Proofs.ReportedIds
import ApiTypings.Proofs.CategoryIndex
import ApiTypings.Proofs.ModuleCode
import ApiTypings.Proofs.QuotedText
import ApiTypings.Proofs.UniqueKeys
import ApiTypings.Proofs.DepthLimit
import ApiTypings.Proofs.BodyFields
import ApiTypings.Proofs.ModuleScope
import ApiTypings.Proofs.Destination
import ApiTypings.Proofs.Directories
import ApiTypings.Proofs.SteadyStores
import ApiTypings.Proofs.AlikeStores
import ApiTypings.Proofs.Repetition
import ApiTypings.Proofs.DistinctNames
import ApiTypings.Proofs.Containment
import ApiTypings.Proofs.ExitStatus
import ApiTypings.Proofs.AlikeTrees
import ApiTypings.Proofs.AlikeCalls
import ApiTypings.Proofs.TokenSecrecy
import ApiTypings.Proofs.Selections
import ApiTypings.Proofs.JsonParts
import ApiTypings.Proofs.DistinctFields
import ApiTypings.Proofs.JsonTokens
import ApiTypings.Proofs.JsonRoundTrip
import ApiTypings.Proofs.TreeChanges
import ApiTypings.Proofs.JsonWords
import ApiTypings.Proofs.PayloadShapes
import ApiTypings.Proofs.Replies
import ApiTypings.Proofs.RequestOrder
import ApiTypings.Proofs.Keywords
import ApiTypings.Proofs.JsonLexemes
import ApiTypings.Proofs.JsonDocuments
import ApiTypings.Proofs.JsonAcceptance
import ApiTypings.Proofs.SchemaTexts
import ApiTypings.Proofs.FreeNames
import ApiTypings.Proofs.LayeredSettings
import ApiTypings.Proofs.LenientDetails
import ApiTypings.Proofs.UrlCodes
import ApiTypings.Proofs.UrlPaths
import ApiTypings.Proofs.RequestUrls
