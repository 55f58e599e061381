import CoinSpend.Account.Description
import CoinSpend.Account.Path
import CoinSpend.Account.Plan
import CoinSpend.Address
import CoinSpend.Address.Base58
import CoinSpend.Address.Bech32
import CoinSpend.Address.CashAddr
import CoinSpend.Address.Segwit
import CoinSpend.Address.Symbols
import CoinSpend.Bytes
import CoinSpend.Bytes.Hex
import CoinSpend.Coin
import CoinSpend.Coin.Registry
import CoinSpend.Failure
import CoinSpend.Hash.Hmac
import CoinSpend.Hash.Padding
import CoinSpend.Hash.Ripemd160
import CoinSpend.Hash.Sha256
import CoinSpend.Hash.Sha512
import CoinSpend.Json.Fields
import CoinSpend.Json.Reader
import CoinSpend.Json.Value
import CoinSpend.Key.Ecdsa
import CoinSpend.Key.Extended
import CoinSpend.Key.Mnemonic
import CoinSpend.Key.Secp256k1
import CoinSpend.Key.WordList
import CoinSpend.Log
import CoinSpend.Script
import CoinSpend.ScriptType
import CoinSpend.Sighash
import CoinSpend.Signature
import CoinSpend.Signature.Der
import CoinSpend.Signing.Config
import CoinSpend.Signing.KeyCache
import CoinSpend.Signing.Oracle
import CoinSpend.Signing.Request
import CoinSpend.Signing.SeedOracle
import CoinSpend.Signing.Session
import CoinSpend.Signing.Validation
import CoinSpend.Text.Blank
import CoinSpend.Text.CombiningClass
import CoinSpend.Text.CompatibilityMapping
import CoinSpend.Text.Decomposition
import CoinSpend.Text.Digits
import CoinSpend.Text.Letters
import CoinSpend.Wire.CompactSize
import CoinSpend.Wire.Reader
import CoinSpend.Wire.Spent
import CoinSpend.Wire.Transaction
import CoinSpend.Proofs.Bytes.Hex
import CoinSpend.Proofs.Bytes.Integers
import CoinSpend.Proofs.Wire.Reading
import CoinSpend.Proofs.Wire.RoundTrip
import CoinSpend.Proofs.Key.FieldOrder
import CoinSpend.Proofs.Script.Instructions
import CoinSpend.Proofs.Signature.DerRoundTrip
import CoinSpend.Proofs.Signature.Strict
import CoinSpend.Proofs.Key.PublicKeys
import CoinSpend.Proofs.Failure
import CoinSpend.Proofs.Signing.Validation
import CoinSpend.Proofs.Signing.Polling
import CoinSpend.Proofs.Signing.Fetching
import CoinSpend.Proofs.Signing.Coupling
import CoinSpend.Proofs.Signing.Inputs
import CoinSpend.Proofs.Signing.Run
import CoinSpend.Proofs.Signing.Responses
import CoinSpend.Proofs.Signing.History
import CoinSpend.Proofs.Signing.Refusal
import CoinSpend.Proofs.Address
import CoinSpend.Proofs.Sighash
import CoinSpend.Proofs.Sighash.Legacy
import CoinSpend.Proofs.Signing.SignedTransaction
import CoinSpend.Proofs.Signing.Soundness
import CoinSpend.Proofs.Signing.Acceptance
import CoinSpend.Proofs.Signing.Fee
import CoinSpend.Proofs.Signing.Calls
import CoinSpend.Proofs.Signing.Cancellation
import CoinSpend.Proofs.Signing.PayloadModes
import CoinSpend.Proofs.Signing.CachedKeys
import CoinSpend.Proofs.Sighash.Amount
import CoinSpend.Proofs.Sighash.Replay
import CoinSpend.Proofs.Address.Numerals
import CoinSpend.Proofs.Text
import CoinSpend.Proofs.Address.Base58
import CoinSpend.Proofs.Address.Symbols
import CoinSpend.Proofs.Address.Checksum
import CoinSpend.Proofs.Address.Bech32
import CoinSpend.Proofs.Address.CashAddr
import CoinSpend.Proofs.Address.Classification
import CoinSpend.Proofs.Address.Derivation
import CoinSpend.Proofs.Account.Path
import CoinSpend.Proofs.Account.Recognition
import CoinSpend.Proofs.Coin.Registry
import CoinSpend.Proofs.Signature.Positions
import CoinSpend.Proofs.Signature.Grammar
import CoinSpend.Proofs.Account.Stepping
import CoinSpend.Proofs.Account.Separation
import CoinSpend.Proofs.Account.Inference
import CoinSpend.Proofs.Signing.HashingExceptions
import CoinSpend.Proofs.Address.Corruption
import CoinSpend.Proofs.Script.Separators
import CoinSpend.Proofs.Address.Segwit
import CoinSpend.Proofs.Address.Regrouping
import CoinSpend.Proofs.Script.Pushes
import CoinSpend.Proofs.Log
import CoinSpend.Proofs.Wire.Framing
