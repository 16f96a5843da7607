import CrossChainVault.Base.Result
import CrossChainVault.Verifier.State

set_option autoImplicit false

/- Reads the secp256r1 verification that must immediately precede a consume. The native program
accepts many layouts; this program accepts exactly one, so the bytes it parses are the bytes the
native program hashed and verified. -/

namespace Verifier

open Result Protocol

/-- One top-level instruction of a transaction, as the instructions sysvar shows it. -/
structure TransactionInstruction where
  programId : Pubkey
  accounts : List Pubkey
  data : Bytes
deriving DecidableEq

/-- The ids of the programs the verifier looks for. -/
structure ProgramIds where
  verifier : Pubkey
  computeBudget : Pubkey
  secp256r1 : Pubkey

/-- Where in its transaction a call runs. -/
structure Invocation where
  stackHeight : Nat
  current : Nat
  instructions : List TransactionInstruction

/-- Instruction-data index meaning "this instruction" to the native program. -/
def currentInstruction : Nat := 2 ^ 16 - 1

def signatureLen : Nat := 64
def publicKeyOffset : Nat := 16
def signatureOffset : Nat := publicKeyOffset + compressedPublicKeyLen
def messageOffset : Nat := signatureOffset + signatureLen

/-- Upper bound on the JWS signing input. -/
def maxSigningInputLen : Nat := 512

def transactionLevelStackHeight : Nat := 1

/-- The fields a valid precompile instruction pins down. -/
structure VerifiedSignature where
  publicKey : Bytes
  signingInput : Bytes
deriving DecidableEq

/-- The two bytes of a `u16`, least significant first. -/
def littleEndian16 (value : Nat) : Bytes := [UInt8.ofNat value, UInt8.ofNat (value / 256)]

/-- The 16-byte header of the only layout accepted: one signature, zero padding, then key,
signature and message in this instruction's own data. -/
def canonicalHeader (signingInputLen : Nat) : Bytes :=
  [1, 0] ++ [signatureOffset, currentInstruction, publicKeyOffset, currentInstruction,
    messageOffset, signingInputLen, currentInstruction].flatMap littleEndian16

/-- Parses precompile instruction data in the canonical layout. -/
def parsePrecompileData (data : Bytes) : Except VerifierError VerifiedSignature := do
  rejectIf (data.length < messageOffset) .invalidPrecompileInstruction
  let signingInput := data.drop messageOffset
  rejectIf (¬(signingInput ≠ [] ∧ signingInput.length ≤ maxSigningInputLen))
    .invalidSigningInputLength
  rejectIf (data.take publicKeyOffset ≠ canonicalHeader signingInput.length)
    .invalidPrecompileInstruction
  pure {
    publicKey := Bytes.slice data publicKeyOffset compressedPublicKeyLen
    signingInput := signingInput }

section Transaction

variable (ids : ProgramIds)

def Invocation.loadInstructionAt (call : Invocation) (index : Nat) :
    Except VerifierError TransactionInstruction :=
  okOr call.instructions[index]? .invalidArgument

/-- Whether a transaction with a consume at `current` may hold this program at `index`. -/
def allowedAt (precompileIndex current index : Nat) (programId : Pubkey) : Bool :=
  if index = precompileIndex ∨ index = current then true
  else if index < precompileIndex then programId = ids.computeBudget
  else programId ≠ ids.verifier ∧ programId ≠ ids.secp256r1

/-- Returns the secp256r1 instruction that verified the signature this call consumes, after
checking the transaction around it.

Accepted shape: zero or more compute-budget instructions, the precompile, then this instruction.
Later instructions may follow, but none may target this program or the precompile, so one
transaction consumes at most one authorization. -/
def Invocation.loadVerifiedPrecompile (call : Invocation) :
    Except VerifierError TransactionInstruction := do
  rejectIf (call.stackHeight ≠ transactionLevelStackHeight) .notTopLevel
  let this ← call.loadInstructionAt call.current
  rejectIf (this.programId ≠ ids.verifier) .notTopLevel
  rejectIf (call.current = 0) .missingPrecompile
  let precompileIndex := call.current - 1
  rejectIf (¬(call.instructions.zipIdx.all fun (instruction, index) =>
    allowedAt ids precompileIndex call.current index instruction.programId)) .invalidInstructionOrder
  let precompile ← call.loadInstructionAt precompileIndex
  rejectIf (precompile.programId ≠ ids.secp256r1) .missingPrecompile
  rejectIf (precompile.accounts ≠ []) .invalidPrecompileInstruction
  pure precompile

end Transaction

end Verifier
