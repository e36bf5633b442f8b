import Oppa.Core.Domain
import Oppa.Foundation.Result

/-!
# Configured printers

The printer references of the printer crate: how a configured printer is reached, in which mode it
is submitted to, and what a virtual printer emulates.

* `PrinterConnection`, `SubmissionMode`, `VirtualPrinterProfile`, `PrinterRef` — a configured printer.
* `PrinterRef.validate` — the check a reference passes before it is saved; `PrinterRef.profiled` says
  what it establishes: a printer has an emulation profile exactly when it is virtual, and then its
  mode is the one that profile is driven in.
-/

namespace Oppa.Printer

open Text

/-- How OPPA can reach a printer. -/
inductive PrinterConnection
  | systemQueue (queueName : String)
  | network (host : String) (port : UInt16)
  | usb (vendorId productId : UInt16) (serialNumber : Option String)
  | virtual (printerId : String)
  deriving DecidableEq, Repr

/-- Language carried by a raw printer submission. -/
inductive PrinterLanguage
  | escPos
  deriving DecidableEq, Repr

/-- How rendered content is submitted to a configured printer. -/
inductive SubmissionMode
  | driver
  | raw (language : PrinterLanguage)
  deriving DecidableEq, Repr

/-- The printer class emulated by an in-process virtual printer. -/
inductive VirtualPrinterProfile
  | escPosReceipt (widthMm : UInt16)
  | systemDriverPage (pageWidthMm pageHeightMm dpi : UInt16)
  deriving DecidableEq, Repr

/-- Discriminator for a printer connection without its details. -/
inductive ConnectionKind
  | systemQueue
  | network
  | usb
  | virtual
  deriving DecidableEq, Repr

/-- How a connection kind is printed by its derived formatter. -/
def ConnectionKind.debugName : ConnectionKind → String
  | .systemQueue => "SystemQueue"
  | .network => "Network"
  | .usb => "Usb"
  | .virtual => "Virtual"

/-- `PrinterConnection::kind`. -/
def PrinterConnection.kind : PrinterConnection → ConnectionKind
  | .systemQueue _ => .systemQueue
  | .network _ _ => .network
  | .usb _ _ _ => .usb
  | .virtual _ => .virtual

/-- A configured printer. -/
structure PrinterRef where
  id : PrinterId
  displayName : String
  connection : PrinterConnection
  submissionMode : SubmissionMode
  virtualProfile : Option VirtualPrinterProfile
  enabled : Bool
  deriving DecidableEq, Repr

/-! ## Validation -/

/-- Upper bound for a user-visible printer name. -/
def maxPrinterNameBytes : ℕ := 256

/-- Validation failures for printer inputs. -/
inductive PrinterValidationError
  | empty (field : String)
  | tooLong (field : String) (maximum : ℕ)
  | invalidHost
  | invalidPort
  | missingProvider
  | missingVirtualProfile
  | unexpectedVirtualProfile
  | incompatibleVirtualMode
  | invalidVirtualProfile
  deriving DecidableEq, Repr

/-- The text of a validation failure. -/
def PrinterValidationError.display : PrinterValidationError → String
  | empty field => field ++ " must not be empty"
  | tooLong field maximum => field ++ " exceeds the " ++ toString maximum ++ "-byte limit"
  | invalidHost => "network host must be a hostname or IP address, not a URL or path"
  | invalidPort => "network printer port must be between 1 and 65535"
  | missingProvider => "discovered printer must preserve at least one provider observation"
  | missingVirtualProfile => "virtual printer must define an emulation profile"
  | unexpectedVirtualProfile => "physical printers cannot define a virtual emulation profile"
  | incompatibleVirtualMode => "virtual printer profile and submission mode are incompatible"
  | invalidVirtualProfile => "virtual printer profile has unsupported dimensions or resolution"

/-- `validate_text`. -/
def validateText (field value : String) (maximum : ℕ) : Except PrinterValidationError Unit :=
  if (trim value).isEmpty ∨ trim value ≠ value then .error (.empty field)
  else if maximum < value.utf8ByteSize then .error (.tooLong field maximum)
  else .ok ()

/-- `VirtualPrinterProfile::validate`. -/
def VirtualPrinterProfile.validate : VirtualPrinterProfile → Except PrinterValidationError Unit
  | .escPosReceipt widthMm =>
      if widthMm = 58 ∨ widthMm = 80 then .ok () else .error .invalidVirtualProfile
  | .systemDriverPage pageWidthMm pageHeightMm dpi =>
      if (100 ≤ pageWidthMm ∧ pageWidthMm ≤ 500) ∧ (100 ≤ pageHeightMm ∧ pageHeightMm ≤ 500) ∧
          (72 ≤ dpi ∧ dpi ≤ 600) then .ok ()
      else .error .invalidVirtualProfile

/-- Whether a text contains another. -/
def contains (needle text : List Char) : Bool :=
  text.tails.any fun tail => needle.isPrefixOf tail

/-- `PrinterConnection::validate`. -/
def PrinterConnection.validate : PrinterConnection → Except PrinterValidationError Unit
  | .systemQueue queueName => validateText "queue name" queueName maxPrinterNameBytes
  | .network host port => do
      validateText "network host" host 253
      if contains "://".toList host.toList ∨ contains "/".toList host.toList then
        .error .invalidHost
      else if port = 0 then .error .invalidPort
      else .ok ()
  | .usb _ _ (some serialNumber) => validateText "USB serial number" serialNumber 256
  | .usb _ _ none => .ok ()
  | .virtual printerId => validateText "virtual printer id" printerId maxPrinterNameBytes

/-- Whether a virtual printer of a profile is driven in a mode. -/
def VirtualPrinterProfile.drivenIn : VirtualPrinterProfile → SubmissionMode → Bool
  | .escPosReceipt _, .raw .escPos => true
  | .systemDriverPage _ _ _, .driver => true
  | _, _ => false

/-- The check of a profile against the connection it stands beside. -/
def PrinterRef.validateProfile (printer : PrinterRef) : Except PrinterValidationError Unit :=
  match printer.connection, printer.virtualProfile with
  | .virtual _, some profile => do
      profile.validate
      if profile.drivenIn printer.submissionMode then .ok () else .error .incompatibleVirtualMode
  | .virtual _, none => .error .missingVirtualProfile
  | _, some _ => .error .unexpectedVirtualProfile
  | _, none => .ok ()

/-- `PrinterRef::validate`. -/
def PrinterRef.validate (printer : PrinterRef) : Except PrinterValidationError Unit := do
  validateText "printer display name" printer.displayName maxPrinterNameBytes
  printer.connection.validate
  printer.validateProfile

/-- A printer has an emulation profile exactly when it is virtual, and is driven in its mode. -/
def PrinterRef.Profiled (printer : PrinterRef) : Prop :=
  match printer.virtualProfile with
  | none => printer.connection.kind ≠ .virtual
  | some profile =>
      printer.connection.kind = .virtual ∧ profile.drivenIn printer.submissionMode = true

lemma PrinterRef.profiled {printer : PrinterRef} (hvalid : printer.validate = .ok ()) :
    printer.Profiled := by
  simp only [PrinterRef.validate, Result.bind_eq_ok] at hvalid
  obtain ⟨_, _, _, _, hprofile⟩ := hvalid
  rw [PrinterRef.Profiled]
  rw [PrinterRef.validateProfile] at hprofile
  cases hconnection : printer.connection <;> cases hvirtual : printer.virtualProfile <;>
    simp only [hconnection, hvirtual, PrinterConnection.kind, reduceCtorEq] at hprofile ⊢ <;>
    first | exact fun h => nomatch h | skip
  simp only [Result.bind_eq_ok] at hprofile
  obtain ⟨_, _, hmode⟩ := hprofile
  refine ⟨trivial, ?_⟩
  split at hmode
  · assumption
  · cases hmode

end Oppa.Printer
