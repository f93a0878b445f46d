import WalletSession.Eip155

set_option autoImplicit false

/-! # Chain names

The eip155 chains that are known by a name. A chain is written by its name if it has one and by its decimal
number otherwise; it is read from its name, from an alias, or from a decimal number. -/

namespace WalletSession
namespace ChainName

/-- The known chains and their names, in order of their numbers. -/
def names : List (ChainNumber × String) := [
  (1, "mainnet"), (2, "morden"), (3, "ropsten"), (4, "rinkeby"), (5, "goerli"), (10, "optimism"),
  (14, "flare"), (20, "elastos"), (25, "cronos"), (30, "rsk"), (31, "rsk-testnet"), (40, "telos"),
  (41, "telos-testnet"), (42, "kovan"), (44, "crab"), (46, "darwinia"), (50, "xdc-mainnet"),
  (51, "xdc-testnet"), (56, "bsc"), (69, "optimism-kovan"), (71, "cfx-testnet"), (77, "sokol"),
  (88, "viction"), (97, "bsc-testnet"), (99, "poa"), (100, "xdai"), (114, "flare-coston2"),
  (122, "fuse"), (130, "unichain"), (137, "polygon"), (143, "monad"), (146, "sonic"), (148, "shimmer"),
  (151, "redbelly"), (153, "redbelly-testnet"), (204, "opbnb-mainnet"), (216, "happychain-testnet"),
  (232, "lens"), (250, "fantom"), (252, "fraxtal"), (288, "boba"), (300, "zksync-testnet"),
  (314, "filecoin-mainnet"), (324, "zksync"), (338, "cronos-testnet"), (369, "pulsechain"),
  (404, "syndr"), (420, "optimism-goerli"), (424, "pgn"), (480, "world"),
  (595, "acala-mandala-testnet"), (596, "karura-testnet"), (597, "acala-testnet"), (626, "battlechain"),
  (627, "battlechain-testnet"), (686, "karura"), (701, "koi"), (740, "canto-testnet"), (787, "acala"),
  (919, "mode-sepolia"), (943, "pulsechain-testnet"), (988, "stable-mainnet"),
  (998, "hyperliquid-testnet"), (999, "hyperliquid"), (1030, "cfx"), (1088, "metis"), (1116, "core"),
  (1135, "lisk"), (1281, "moonbeam-dev"), (1284, "moonbeam"), (1285, "moonriver"), (1287, "moonbase"),
  (1301, "unichain-sepolia"), (1328, "sei-testnet"), (1329, "sei"), (1337, "dev"),
  (1439, "injective-testnet"), (1480, "vana"), (1514, "story"), (1625, "gravity-alpha-mainnet"),
  (1672, "pharos"), (1776, "injective"), (1868, "soneium"), (1874, "whitechain-sepolia"),
  (1946, "soneium-minato-testnet"), (2020, "ronin"), (2201, "stable-testnet"),
  (2522, "fraxtal-testnet"), (2741, "abstract"), (4002, "fantom-testnet"), (4200, "merlin"),
  (4217, "tempo"), (4326, "megaeth"), (4352, "memecore"), (4663, "robinhood"), (4689, "iotex"),
  (4801, "world-sepolia"), (5000, "mantle"), (5003, "mantle-sepolia"), (5042, "arc"),
  (5611, "opbnb-testnet"), (6343, "megaeth-testnet"), (7000, "zeta"), (7700, "canto"), (8217, "kaia"),
  (8453, "base"), (9000, "evmos-testnet"), (9001, "evmos"), (9745, "plasma"), (9746, "plasma-testnet"),
  (10143, "monad-testnet"), (10200, "chiado"), (11124, "abstract-testnet"), (13370, "cannon"),
  (13371, "immutable"), (13473, "immutable-testnet"), (13505, "gravity-alpha-testnet-sepolia"),
  (14174, "signet-pecorino"), (14601, "sonic-testnet"), (17000, "holesky"), (20993, "fluent-devnet"),
  (20994, "fluent-testnet"), (25363, "fluent"), (26863, "oasis"), (31318, "tempo-devnet"),
  (31337, "anvil-hardhat"), (33111, "curtis"), (33139, "apechain"), (34443, "mode"),
  (37111, "lens-testnet"), (42161, "arbitrum"), (42170, "arbitrum-nova"), (42220, "celo"),
  (42261, "emerald-testnet"), (42262, "emerald"), (42429, "tempo-testnet"), (42431, "tempo-moderato"),
  (42793, "etherlink"), (43113, "fuji"), (43114, "avalanche"), (43521, "formicarium"),
  (43522, "insectarium"), (46630, "robinhood-testnet"), (50104, "sophon"), (55244, "superposition"),
  (57073, "ink"), (58008, "pgn-sepolia"), (59140, "linea-goerli"), (59141, "linea-sepolia"),
  (59144, "linea"), (60808, "bob"), (61166, "treasure"), (72344, "radius-testnet"), (80002, "amoy"),
  (80069, "berachain-bepolia"), (80094, "berachain"), (81457, "blast"), (84531, "base-goerli"),
  (84532, "base-sepolia"), (98866, "plume"), (98867, "plume-testnet"), (98985, "superposition-testnet"),
  (127001, "grav"), (127823, "etherlink-shadownet"), (167000, "taiko"), (167009, "taiko-hekla"),
  (200901, "bitlayer"), (202601, "ronin-testnet"), (314159, "filecoin-calibration-testnet"),
  (421611, "arbitrum-testnet"), (421613, "arbitrum-goerli"), (421614, "arbitrum-sepolia"),
  (444444, "syndr-sepolia"), (490000, "autonomys-nova-testnet"), (534351, "scroll-sepolia"),
  (534352, "scroll"), (560048, "hoodi"), (660279, "xai"), (688688, "pharos-testnet"),
  (723487, "radius"), (747474, "katana"), (763373, "ink-sepolia"), (808813, "bob-sepolia"),
  (911867, "odyssey"), (978658, "treasure-topaz"), (5042002, "arc-testnet"), (7777777, "zora"),
  (11142220, "celo-sepolia"), (11155111, "sepolia"), (11155420, "optimism-sepolia"), (21000000, "corn"),
  (21000001, "corn-testnet"), (168587773, "blast-sepolia"), (324705682, "skale-base-sepolia-testnet"),
  (420420417, "polkadot-testnet"), (420420418, "kusama"), (420420419, "polkadot"),
  (531050104, "sophon-testnet"), (666666666, "degen"), (999999999, "zora-sepolia"),
  (1187947933, "skale-base"), (1313161554, "aurora"), (1313161555, "aurora-testnet"),
  (37714555429, "xai-sepolia")]

/-- Other names that are read. -/
def aliases : List (ChainNumber × String) := [
  (1, "ethlive"), (56, "binance-smart-chain"), (56, "bnb-smart-chain"),
  (97, "binance-smart-chain-testnet"), (97, "bnb-smart-chain-testnet"), (100, "gnosis"),
  (100, "gnosis-chain"), (4217, "tempo-mainnet"), (31337, "anvil"), (31337, "hardhat"),
  (33111, "apechain-testnet"), (43113, "avalanche-fuji"), (43521, "memecore-formicarium"),
  (43522, "memecore-insectarium"), (80002, "polygon-amoy"), (80069, "berachain-bepolia-testnet"),
  (978658, "treasure-topaz-testnet")]

/-- The name of a chain. -/
def name? (n : ChainNumber) : Option String := names.lookup n

/-- The chain of a name or alias. -/
def named? (s : String) : Option ChainNumber := ((names ++ aliases).find? fun e => e.2 == s).map (·.1)

/-- A chain by its name, or else by its number. -/
def text (n : ChainNumber) : String := (name? n).getD (Eip155.reference n)

/-- The chain that a text names; a decimal number may have leading zeros and a plus sign. -/
def parse? (s : String) : Option ChainNumber :=
  match named? s with
  | some n => some n
  | none => Numeral.signedWord? 10 s.toList

end ChainName
end WalletSession
