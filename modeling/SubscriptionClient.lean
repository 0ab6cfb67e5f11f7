import SubscriptionClient.Backend.Session
import SubscriptionClient.Concurrency.Task
import SubscriptionClient.Config
import SubscriptionClient.Domain.Expiry
import SubscriptionClient.Proofs.Backend.Cancelling
import SubscriptionClient.Proofs.Backend.Eligibilities
import SubscriptionClient.Proofs.Backend.Gating
import SubscriptionClient.Proofs.Backend.Isolation
import SubscriptionClient.Proofs.Backend.Returns
import SubscriptionClient.Proofs.Backend.Transparency
import SubscriptionClient.Proofs.Concurrency.FanOut
import SubscriptionClient.Proofs.Domain.Contents
import SubscriptionClient.Proofs.Domain.GracePeriods
import SubscriptionClient.Proofs.Request.ReceiptIdentity
import SubscriptionClient.Proofs.Request.Release
import SubscriptionClient.Proofs.Request.UserSegments
import SubscriptionClient.Proofs.Request.WholeMilliseconds
import SubscriptionClient.Proofs.Response.LogIn
import SubscriptionClient.Proofs.Response.OfferSigning
import SubscriptionClient.Proofs.Response.UnknownMembers
import SubscriptionClient.Proofs.Schema.Dumps
import SubscriptionClient.Proofs.Time.IsoText
