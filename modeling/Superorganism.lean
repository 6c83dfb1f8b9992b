import Superorganism.TxCombine
import Superorganism.GossipCodec
import Superorganism.FundingValid
import Superorganism.FundingSelect
import Superorganism.FundingAgree
import Superorganism.FundingOutpoint
import Superorganism.SpawnTransfer
import Superorganism.SpawnFunding
import Superorganism.SpawnProvision
import Superorganism.SpawnKeys
import Superorganism.Authentication
import Superorganism.RoundTrip
import Superorganism.Channel
import Superorganism.Presence
import Superorganism.FundingConverge
import Superorganism.Registration
import Superorganism.SporeStack
import Superorganism.HealthChecker
import Superorganism.SpawnThresholds
import Superorganism.SpawnFlags
import Superorganism.LtrMabArms
import Superorganism.LtrMabCounts
import Superorganism.LtrMabKeys
import Superorganism.Whoami
import Superorganism.TxFailures
import Superorganism.FundingOrder
import Superorganism.FundingSubmit
import Superorganism.FundingCommitment
import Superorganism.OpReturn
import Superorganism.SpawnEligibility
import Superorganism.LtrMabBytes
import Superorganism.RepositoryFrame
import Superorganism.SpawnInvoices
import Superorganism.RepositoryCascade
import Superorganism.TxIdentity
import Superorganism.HealthTrim
import Superorganism.HealthLatest
import Superorganism.AmountsRoundTrip
import Superorganism.AmountsExact
import Superorganism.BitcoinUri
import Superorganism.FundingBroadcast
import Superorganism.FundingRequest
import Superorganism.CommunityPackets
import Superorganism.PacketExchange
import Superorganism.Broadcasts
import Superorganism.OpenNetwork
import Superorganism.ContentFlood
