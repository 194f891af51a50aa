import ResponseCache.Cache.Captured
import ResponseCache.Cache.Concurrent
import ResponseCache.Cache.Entry
import ResponseCache.Cache.Manager
import ResponseCache.Cache.Outcome
import ResponseCache.Cache.Pipeline
import ResponseCache.Cache.Select
import ResponseCache.Cache.Store
import ResponseCache.Cache.Vary
import ResponseCache.Config.Ini
import ResponseCache.Config.Load
import ResponseCache.Config.Settings
import ResponseCache.Digest.Sha256
import ResponseCache.Freshness.Directives
import ResponseCache.Http.Header
import ResponseCache.Http.Message
import ResponseCache.Http.Method
import ResponseCache.Http.Uri
import ResponseCache.Http.Wire
import ResponseCache.Main
import ResponseCache.Media.Accept
import ResponseCache.Media.Type
import ResponseCache.Net.SocketAddress
import ResponseCache.Proofs.Cache.SlotOrder
import ResponseCache.Proofs.Cache.StoreInvariant
import ResponseCache.Proofs.Cache.StoreMap
import ResponseCache.Proofs.Cache.EvictionLoop
import ResponseCache.Proofs.Cache.RequestEffects
import ResponseCache.Proofs.Cache.Selection
import ResponseCache.Proofs.Cache.VaryFit
import ResponseCache.Proofs.Cache.RepeatedRequest
import ResponseCache.Proofs.Cache.Preconditions
import ResponseCache.Proofs.Cache.SelectionOrder
import ResponseCache.Proofs.Cache.Numbering
import ResponseCache.Proofs.Cache.FailOpen
import ResponseCache.Proofs.Cache.Purging
import ResponseCache.Proofs.Cache.ReturnedTag
import ResponseCache.Proofs.Cache.BestVariant
import ResponseCache.Proofs.Cache.VaryContainment
import ResponseCache.Proofs.Cache.CapturedView
import ResponseCache.Proofs.Cache.ServedAnswer
import ResponseCache.Proofs.Cache.ConcurrentLedger
import ResponseCache.Proofs.Cache.ConcurrentSteps
import ResponseCache.Proofs.Cache.ExactCount
import ResponseCache.Proofs.Validation.WireForm
import ResponseCache.Proofs.Http.TextValue
import ResponseCache.Proofs.Text.Elements
import ResponseCache.Proofs.Freshness.MaxAgeRewrite
import ResponseCache.Proofs.Media.Preference
import ResponseCache.Proofs.Media.AcceptGrammar
import ResponseCache.Proofs.Cache.CapturedReplay
import ResponseCache.Proofs.Freshness.DirectiveReading
import ResponseCache.Proofs.Media.TypeSyntax
import ResponseCache.Proofs.Config.LoadedSettings
import ResponseCache.Proofs.Server.PermitConservation
import ResponseCache.Server.AcceptLoop
import ResponseCache.Server.Demo
import ResponseCache.Server.Listen
import ResponseCache.Server.Worker
import ResponseCache.Session.Basic
import ResponseCache.Session.Exchange
import ResponseCache.Session.Listening
import ResponseCache.Session.Timer
import ResponseCache.Text.Ascii
import ResponseCache.Text.Blank
import ResponseCache.Text.Case
import ResponseCache.Text.CaseMap
import ResponseCache.Text.Cased
import ResponseCache.Text.CodeRange
import ResponseCache.Text.Escaped
import ResponseCache.Text.GraphemeExtend
import ResponseCache.Text.Printable
import ResponseCache.Validation.Condition
import ResponseCache.Validation.EntityTag
