import Blackout.Db.Convergence
import Blackout.Marketplace.AdRevenue
import Blackout.Tips.Raised
import Blackout.Marketplace.EntitlementMoney
import Blackout.Marketplace.CreatorSubscriptions
import Blackout.Marketplace.PaidAccess
import Blackout.Marketplace.GrowthRewards
import Blackout.Marketplace.Interference
import Blackout.Marketplace.OnceEach
import Blackout.Deadman.Privacy
import Blackout.Auth.CredentialChanges
import Blackout.Auth.PasskeyRuns
import Blackout.Feed.WallPrivacy
import Blackout.Coalition.Succession
import Blackout.Messages.Final
import Blackout.Mesh.Relay
import Blackout.Release.History
import Blackout.Runtime.Recovery
import Blackout.Runtime.Jitter
import Blackout.Runtime.Signatures
import Blackout.KeyTransparency.Storage
import Blackout.DeadDrop.Quorum
import Blackout.DeadDrop.Decoys
import Blackout.Protocol.Binding
import Blackout.Client.HiddenMessages
import Blackout.Protocol.Base64Forms
import Blackout.Governance.Votes
import Blackout.Persona.Burners
