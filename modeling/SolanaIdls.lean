import SolanaIdls.Rust.Outcome
import SolanaIdls.Rust.Match
import SolanaIdls.Rust.TagMatch
import SolanaIdls.Borsh.Codec
import SolanaIdls.Borsh.Compound
import SolanaIdls.Borsh.SortedMap
import SolanaIdls.Common
import SolanaIdls.Accounts
import SolanaIdls.Raydium.AmmV4.Accounts
import SolanaIdls.Meteora.Dlmm.Accounts
import SolanaIdls.Jupiter.V6.Accounts
import SolanaIdls.Raydium.Cpmm.Events
import SolanaIdls.Raydium.Cpmm.Instructions
import SolanaIdls.Jupiter.V6.Events
import SolanaIdls.Jupiter.V4.Instructions
import SolanaIdls.Jupiter.V6.Instructions
import SolanaIdls.Raydium.AmmV4.Instructions
import SolanaIdls.Raydium.AmmV4.Logs
import SolanaIdls.Tensor.Instructions
import SolanaIdls.Tensor.Events
import SolanaIdls.Pumpswap.Accounts
import SolanaIdls.Metaplex.Accounts
import SolanaIdls.Raydium.Stable.Instructions
import SolanaIdls.Sanctum.Instructions
import SolanaIdls.Jupiter.LimitOrder.Events
import SolanaIdls.Pumpfun.BondingCurve.Events
import SolanaIdls.Pumpfun.Amm.Events
import SolanaIdls.Spl.Token.Instructions
import SolanaIdls.Spl.Arms
import SolanaIdls.Spl.Token2022.Instructions
import SolanaIdls.Spl.TokenLending.Instructions
import SolanaIdls.Spl.TokenSwap.Instructions
import SolanaIdls.Serum.Instructions
import SolanaIdls.Native.Instructions
import SolanaIdls.Orca.Whirlpool.Instructions
import SolanaIdls.Raydium.Launchpad.AnchorCpiEvent
import SolanaIdls.Meteora.Dlmm.AnchorCpiEvent
import SolanaIdls.Meteora.Daam.AnchorCpiEvent
import SolanaIdls.Metaplex.TokenMetadata.Args
import SolanaIdls.Metaplex.TokenMetadata.Instructions
