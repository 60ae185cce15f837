import FormspecWeb.Controller.UnknownOutcome
import FormspecWeb.Policy.ItemCoverage
import FormspecWeb.Policy.Honesty
import FormspecWeb.Policy.SilentLifecycle
import FormspecWeb.DraftStore.OneDraft
import FormspecWeb.SubmitTransport.Runs
import FormspecWeb.App.SessionRuns
import FormspecWeb.Payment.ChargeLaw
import FormspecWeb.Identity.OneSession
import FormspecWeb.Identity.SessionAdmission
import FormspecWeb.Signing.MarkerRecovery
import FormspecWeb.Definition.VersionHonoured
import FormspecWeb.Completion.TaskOutcome
import FormspecWeb.SourceWorker.ProofExchange
import FormspecWeb.SourceWorker.ProofLifetime
import FormspecWeb.Screener.QualifiedFacts
import FormspecWeb.Photo.OneJob
import FormspecWeb.Screener.RetentionChain
import FormspecWeb.Signing.CreateMarkers
import FormspecWeb.Controller.Redelivery
import FormspecWeb.Host.VisitRuns
import FormspecWeb.Host.StatusSlot
import FormspecWeb.Host.RestoredRuntime
import FormspecWeb.App.AttachmentUploads
import FormspecWeb.App.FieldPaths
import FormspecWeb.App.SubmittedDraft
import FormspecWeb.App.ExchangeLaw
import FormspecWeb.Identity.ClaimOwners
import FormspecWeb.VerifyingSurface.AdmissionOrder
import FormspecWeb.Screener.AttachmentReferences
import FormspecWeb.Signing.PrefillPartition
import FormspecWeb.Storage.MetadataIsolation
import FormspecWeb.SourceWorker.ReaderCaps
import FormspecWeb.Engine.ReplacementOwner
import FormspecWeb.Ledger.AnchoredCommand
import FormspecWeb.Host.EventRouting
import FormspecWeb.VerifyingSurface.ConfinedAcquisition
import FormspecWeb.Evaluation.ComposedDeadline
import FormspecWeb.OfflineSubmit.QueueIntegrity
import FormspecWeb.DraftStore.SeparateDrafts
import FormspecWeb.Attachments.StoredUploads
import FormspecWeb.SourceWorker.ProofJsonReading
import FormspecWeb.Hydration.CandidateFacts
import FormspecWeb.Attachments.ReadableUploads
import FormspecWeb.VerifyingSurface.PublicApp
import FormspecWeb.MultiParty.Aggregate
import FormspecWeb.Status.SessionView
import FormspecWeb.Ledger.KeyMaterial
import FormspecWeb.Status.DisplayedCase
import FormspecWeb.Status.LifecycleRetries
import FormspecWeb.App.EmbedGate
import FormspecWeb.Payment.RailLedger
