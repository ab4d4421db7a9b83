import Antd.Lib.LittleEndian
import Antd.Lib.WideWord
import Antd.Lib.LongDivision
import Antd.Lib.SlidingWindow
import Antd.Lib.ForLoop
import Antd.Lib.Histogram
import Antd.Crypto.Types
import Antd.Epee.IntUtil
import Antd.Cryptonote.Basic
import Antd.Cryptonote.Difficulty
import Antd.FullNodes.Deregister
import Antd.Cryptonote.Reward
import Antd.Cryptonote.MinerTx
import Antd.Cryptonote.BlockchainDifficulty
import Antd.Cryptonote.HardFork
import Antd.Cryptonote.BatchedControl
import Antd.Common.Varint
import Antd.Serialization.BinaryArchive
import Antd.Cryptonote.TxExtra
import Antd.BlockchainDb.Lmdb
import Antd.BlockchainDb.AddPop
import Antd.FullNodes.Rules
import Antd.FullNodes.QuorumCop
import Antd.Common.Base58
import Antd.FullNodes.FullNodeList
import Antd.Epee.PortableStorage
import Antd.Common.Pruning
import Antd.Rpc.OutputDistribution
import Antd.Cryptonote.BlockTimestamp
import Antd.Epee.PortableStorageToBin
import Antd.BlockchainDb.PruneWorker
import Antd.Epee.LevinProtocol
import Antd.Common.Base58Addr
import Antd.Crypto.TreeHash
import Antd.Ringct.RctTypes
import Antd.Serialization.JsonObject
import Antd.Lib.MultiIndex
import Antd.P2p.NetPeerlist
import Antd.CryptonoteProtocol.BlockQueue
import Antd.FullNodes.Registration
import Antd.Mnemonics.WordLists
import Antd.Lib.ChainedDigits
import Antd.Mnemonics.ElectrumWords
import Antd.Ringct.RctOps
import Antd.FullNodes.Swarms
import Antd.Common.ApplyPermutation
import Antd.Cryptonote.FormatUtils
import Antd.FullNodes.ListState
import Antd.FullNodes.StakingAccounts
import Antd.FullNodes.MersenneTwister
import Antd.FullNodes.QueueOrder
import Antd.FullNodes.Synced
import Antd.FullNodes.RewardQueue
