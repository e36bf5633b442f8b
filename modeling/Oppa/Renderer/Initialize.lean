import Oppa.Renderer.Accepted

/-!
# Jobs that begin with ESC @

`ESC @` initializes the printer: a job that begins with it shall not depend on what was printed
before.  It resets the alignment, the weight and the stored QR content, and leaves the two settings
of barcodes as they are.

* `Settings` — these two settings; `settingsLeft` — what a job leaves of them; `Inherits` — a job
  prints a barcode before it has made such a setting.
* `Emits` — what a step prints, as a function of the settings; `emits_flush`, `emits_perform`,
  `emits_performAll` — the steps of a printer.
* **`initialize_independent_iff`** — a job behind another prints what it prints alone exactly when
  the other leaves the settings as they were at the beginning, or it inherits none of them.
-/

namespace Oppa.Renderer

open Protocol Bytes Result Text

/-! ## The settings of barcodes -/

/-- The height of barcodes, and whether they show their text. -/
@[ext] structure Settings where
  height : UInt8
  text : Bool
  deriving DecidableEq, Repr

/-- The settings of a printer that is switched on. -/
def Settings.initial : Settings := ⟨80, true⟩

/-- The settings after a command. -/
def Settings.after (s : Settings) : Command → Settings
  | .order (.barcodeHeight dots) => { s with height := dots }
  | .order (.barcodeText shown) => { s with text := shown }
  | _ => s

/-- The settings that a stream leaves behind. -/
def settingsLeft (bytes : List UInt8) : Settings :=
  ((commands bytes).getD []).foldl Settings.after .initial

/-- A command that prints a barcode. -/
def Command.isBarcode : Command → Bool
  | .order (.barcode _ _) => true
  | _ => false

/-- A command that sets the height of barcodes. -/
def Command.setsHeight : Command → Bool
  | .order (.barcodeHeight _) => true
  | _ => false

/-- A command that sets whether barcodes show their text. -/
def Command.setsText : Command → Bool
  | .order (.barcodeText _) => true
  | _ => false

/-- A barcode is printed before such a setting is made. -/
def inherits (sets : Command → Bool) : List Command → Bool
  | [] => false
  | command :: commands => command.isBarcode || (!sets command && inherits sets commands)

/-- A stream prints a barcode before it has made such a setting. -/
def Inherits (sets : Command → Bool) (bytes : List UInt8) : Prop :=
  inherits sets ((commands bytes).getD []) = true

instance {sets : Command → Bool} {bytes : List UInt8} : Decidable (Inherits sets bytes) :=
  inferInstanceAs (Decidable (_ = true))

/-- A command leaves the height of barcodes, or sets it whatever it was. -/
lemma height_after (command : Command) (s s' : Settings) :
    (s.after command).height = (s'.after command).height ↔
      (command.setsHeight = false → s.height = s'.height) := by
  cases command with
  | order order => cases order <;> simp [Settings.after, Command.setsHeight]
  | _ => simp [Settings.after, Command.setsHeight]

lemma text_after (command : Command) (s s' : Settings) :
    (s.after command).text = (s'.after command).text ↔
      (command.setsText = false → s.text = s'.text) := by
  cases command with
  | order order => cases order <;> simp [Settings.after, Command.setsText]
  | _ => simp [Settings.after, Command.setsText]

/-! ## What is printed under them -/

namespace Device

variable {d e f : Device} {s s' : Settings} {xs : List ReceiptElement}

/-- A printer with other settings that has printed something else. -/
def settled (d : Device) (xs : List ReceiptElement) (s : Settings) : Device :=
  { d with elements := xs, barcodeHeightDots := s.height, barcodeHri := s.text }

/-- The settings of a printer. -/
def settings (d : Device) : Settings := ⟨d.barcodeHeightDots, d.barcodeHri⟩

lemma settled_self : d.settled d.elements d.settings = d := rfl

/-- **A step from one printer to another**, when these are to have certain settings and to have
printed something else: what it prints is a function of the settings, and under two settings it
prints the same exactly when `same` holds of them. -/
def Emits (run : Device → Option Device) (d e : Device) (after : Settings → Settings)
    (same : Settings → Settings → Prop) : Prop :=
  ∃ printed : Settings → List ReceiptElement,
    (∀ xs s, run (d.settled xs s) = some (e.settled (xs ++ printed s) (after s))) ∧
      (∀ s s', (printed s).length = (printed s').length) ∧
        ∀ s s', printed s = printed s' ↔ same s s'

lemma Emits.andThen {first next : Device → Option Device} {after after' : Settings → Settings}
    {same same' : Settings → Settings → Prop} (hfirst : Emits first d e after same)
    (hnext : Emits next e f after' same') :
    Emits (fun d => (first d).bind next) d f (fun s => after' (after s))
      fun s s' => same s s' ∧ same' (after s) (after s') := by
  rcases hfirst with ⟨printed, hrun, hlength, hsame⟩
  rcases hnext with ⟨printed', hrun', hlength', hsame'⟩
  refine ⟨fun s => printed s ++ printed' (after s), fun xs s => ?_, fun s s' => ?_, fun s s' => ?_⟩
  · show (first (d.settled xs s)).bind next =
      some (f.settled (xs ++ (printed s ++ printed' (after s))) (after' (after s)))
    rw [hrun, Option.bind_some, hrun', List.append_assoc]
  · show (printed s ++ printed' (after s)).length = (printed s' ++ printed' (after s')).length
    rw [List.length_append, List.length_append, hlength s s', hlength' (after s) (after s')]
  · show printed s ++ printed' (after s) = printed s' ++ printed' (after s') ↔
      same s s' ∧ same' (after s) (after s')
    rw [← hsame, ← hsame']
    constructor
    · intro h
      exact List.append_inj h (hlength s s')
    · rintro ⟨h, h'⟩
      rw [h, h']

/-- A step that prints the same under all settings, and leaves them. -/
lemma Emits.always {run : Device → Option Device} (added : List ReceiptElement)
    {after : Settings → Settings}
    (hrun : ∀ xs s, run (d.settled xs s) = some (e.settled (xs ++ added) (after s))) :
    Emits run d e after fun _ _ => True :=
  ⟨fun _ => added, hrun, fun _ _ => rfl, fun _ _ => iff_true_intro rfl⟩

lemma emits_flush (h : d.flush = some e) : Emits flush d e id fun _ _ => True := by
  have htext (xs s) : (d.settled xs s).text = d.text := rfl
  simp only [flush] at h
  split at h
  · rename_i hempty
    cases h
    refine .always [] fun xs s => ?_
    rw [flush, htext, if_pos hempty, List.append_nil]
    rfl
  · rename_i hne
    rcases Option.map_eq_some_iff.mp h with ⟨text, hdecode, rfl⟩
    refine .always [.text text d.alignment d.bold] fun xs s => ?_
    rw [flush, htext, if_neg hne, hdecode]
    rfl

lemma emits_endLine (h : d.endLine = some e) : Emits endLine d e id fun _ _ => True := by
  have htext (xs s) : (d.settled xs s).text = d.text := rfl
  simp only [endLine] at h
  split at h
  · rename_i hempty
    cases h
    refine .always [.feed 1] fun xs s => ?_
    rw [endLine, htext, if_pos hempty]
    rfl
  · rename_i hne
    rcases Option.map_eq_some_iff.mp h with ⟨text, hdecode, rfl⟩
    refine .always [d.line text] fun xs s => ?_
    rw [endLine, htext, if_neg hne, hdecode]
    rfl

/-- The same is printed under two settings, unless it is a barcode. -/
def sameBarcode (command : Command) (s s' : Settings) : Prop := command.isBarcode = true → s = s'

lemma emits_obey {order : Order} (h : d.obey order = some e) :
    Emits (obey · order) d e (·.after (.order order)) (sameBarcode (.order order)) := by
  have hother (hother : (Command.order order).isBarcode = false) :
      (fun _ _ => True) = sameBarcode (.order order) := by
    funext s s'
    simp [sameBarcode, hother]
  cases order with
  | barcode format value => 
      cases h
      refine ⟨fun s => [.barcode format value s.height s.text], fun xs s => rfl, fun _ _ => rfl, ?_⟩
      rintro ⟨height, text⟩ ⟨height', text'⟩
      simp [sameBarcode, Command.isBarcode]
  | printSymbol =>
      rcases Option.map_eq_some_iff.mp h with ⟨value, hvalue, rfl⟩
      rw [← hother rfl]
      refine .always [.qr value] fun xs s => ?_
      show Option.map _ d.qrPayload = _
      rw [hvalue]
      rfl
  | feed lines => 
      cases h
      rw [← hother rfl]
      exact .always [.feed lines] fun _ _ => rfl
  | image raster => 
      cases h
      rw [← hother rfl]
      exact .always [.image raster] fun _ _ => rfl
  | cut => 
      cases h
      rw [← hother rfl]
      exact .always [.cut] fun _ _ => rfl
  | _ =>
      cases h
      rw [← hother rfl]
      exact .always [] fun xs s => by rw [List.append_nil]; rfl

lemma emits_perform {command : Command} (h : d.perform command = some e) :
    Emits (perform · command) d e (·.after command) (sameBarcode command) := by
  have hother (hother : command.isBarcode = false) :
      (fun _ _ => True) = sameBarcode command := by
    funext s s'
    simp [sameBarcode, hother]
  cases command with
  | print byte =>
      rw [← hother rfl]
      simp only [perform] at h
      split at h
      · cases h
      · rename_i hlimit
        cases h
        refine .always [] fun xs s => ?_
        have htext : (d.settled xs s).text = d.text := rfl
        show (if maxTextBytes < (d.settled xs s).text.length + 1 then none else _) = _
        rw [htext, if_neg hlimit, List.append_nil]
        rfl
  | lineFeed =>
      rw [← hother rfl]
      exact emits_endLine h
  | carriageReturn =>
      rw [← hother rfl]
      cases h
      exact .always [] fun xs s => by rw [List.append_nil]; rfl
  | order order =>
      rcases Option.bind_eq_some_iff.mp h with ⟨flushed, hflush, hobey⟩
      rcases (emits_flush hflush).andThen (emits_obey hobey) with ⟨printed, hrun, hlength, hsame⟩
      exact ⟨printed, hrun, hlength, fun s s' => (hsame s s').trans (iff_of_eq (true_and _))⟩

/-- The same is printed under two settings, unless one that differs is inherited. -/
def sameInherited (commands : List Command) (s s' : Settings) : Prop :=
  (inherits Command.setsHeight commands = true → s.height = s'.height) ∧
    (inherits Command.setsText commands = true → s.text = s'.text)

/-- **What some commands print** depends on the settings they inherit. -/
lemma emits_performAll {commands : List Command} : ∀ {d}, d.performAll commands = some e →
    Emits (performAll · commands) d e (fun s => commands.foldl Settings.after s)
      (sameInherited commands) := by
  induction commands with
  | nil =>
      intro d h
      cases h
      refine ⟨fun _ => [], fun xs s => ?_, fun _ _ => rfl, fun s s' => ?_⟩
      · rw [List.append_nil]
        rfl
      · simp [sameInherited, inherits]
  | cons command commands ih =>
      intro d h
      simp only [performAll, List.foldlM_cons, Option.bind_eq_bind] at h
      rcases Option.bind_eq_some_iff.mp h with ⟨next, hfirst, hnext⟩
      rcases (emits_perform hfirst).andThen (ih hnext) with ⟨printed, hrun, hlength, hsame⟩
      refine ⟨printed, hrun, hlength, fun s s' => (hsame s s').trans ?_⟩
      simp only [sameBarcode, sameInherited, inherits, Bool.or_eq_true, Bool.and_eq_true,
        Bool.not_eq_true', height_after, text_after, Settings.ext_iff]
      tauto

lemma Emits.settings {run : Device → Option Device} {after : Settings → Settings}
    {same : Settings → Settings → Prop} (hemits : Emits run d e after same) (h : run d = some e) :
    e.settings = after d.settings := by
  rcases hemits with ⟨printed, hrun, -, -⟩
  have hself := hrun d.elements d.settings
  rw [settled_self, h] at hself
  exact congrArg Device.settings (Option.some.inj hself)

/-! ## A printer that is initialized -/

lemma text_flush (h : d.flush = some e) : e.text = [] := by
  simp only [flush] at h
  split at h
  · rename_i hempty
    cases h
    exact hempty
  · rcases Option.map_eq_some_iff.mp h with ⟨text, -, rfl⟩
    rfl

lemma width_flush (h : d.flush = some e) : e.width = d.width := by
  simp only [flush] at h
  split at h
  · cases h
    rfl
  · rcases Option.map_eq_some_iff.mp h with ⟨text, -, rfl⟩
    rfl

lemma width_endLine (h : d.endLine = some e) : e.width = d.width := by
  simp only [endLine] at h
  split at h
  · cases h
    rfl
  · rcases Option.map_eq_some_iff.mp h with ⟨text, -, rfl⟩
    rfl

lemma width_perform {command : Command} (h : d.perform command = some e) : e.width = d.width := by
  cases command with
  | print byte =>
      simp only [perform] at h
      split at h <;> cases h
      rfl
  | lineFeed => exact width_endLine h
  | carriageReturn =>
      cases h
      rfl
  | order order =>
      rcases Option.bind_eq_some_iff.mp h with ⟨flushed, hflush, hobey⟩
      rw [← width_flush hflush]
      cases order with
      | printSymbol =>
          rcases Option.map_eq_some_iff.mp hobey with ⟨value, -, rfl⟩
          rfl
      | _ =>
          cases hobey
          rfl

lemma width_performAll {commands : List Command} : ∀ {d : Device}, d.performAll commands = some e →
    e.width = d.width := by
  induction commands with
  | nil =>
      intro d h
      cases h
      rfl
  | cons command commands ih =>
      intro d h
      rcases Option.bind_eq_some_iff.mp h with ⟨next, hfirst, hnext⟩
      exact (ih hnext).trans (width_perform hfirst)

/-- A printer that is initialized is as it is when it is switched on, apart from what it has
printed and the settings of barcodes. -/
lemma perform_initialize (h : d.flush = some e) :
    d.perform (.order .initialise) = some ((start d.width).settled e.elements e.settings) := by
  have htext := text_flush h
  have hwidth := width_flush h
  show d.flush.bind _ = _
  rw [h]
  cases e
  subst htext hwidth
  rfl

end Device

/-! ## One job behind another -/

/-- The commands of a job that begins with `ESC @`. -/
lemma commands_initialize {b : List UInt8} {cs : List Command}
    (h : commands (0x1b :: 0x40 :: b) = some cs) :
    ∃ rest, cs = .order .initialise :: rest := by
  have hread : readCommand (0x1b :: 0x40 :: b) = some (.order .initialise, b) := rfl
  simp only [commands, List.length_cons, readCommands, hread, Option.bind_eq_bind,
    Option.bind_some] at h
  rcases Option.bind_eq_some_iff.mp h with ⟨rest, -, hcs⟩
  exact ⟨rest, (Option.some.inj hcs).symm⟩

/-- **A job behind another prints what it prints alone**, when it begins with `ESC @`, exactly when
the other leaves the settings of barcodes as they were or it makes them before its first barcode. -/
theorem initialize_independent_iff {a b : List UInt8} {width : ReceiptWidth}
    {layout layout' : PrintLayout} (ha : Accepts a width layout)
    (hb : Accepts (0x1b :: 0x40 :: b) width layout') :
    (∃ result, interpret (a ++ 0x1b :: 0x40 :: b) width = .ok result ∧
        result.layout = ⟨width, layout.elements ++ layout'.elements⟩) ↔
      ((settingsLeft a).height = 80 ∨ ¬ Inherits Command.setsHeight (0x1b :: 0x40 :: b)) ∧
        ((settingsLeft a).text = true ∨ ¬ Inherits Command.setsText (0x1b :: 0x40 :: b)) := by
  -- what the first job leaves behind
  rcases accepts_iff_outcome.mp ha with ⟨d, e, houtcome, hflush, rfl⟩
  rcases Parser.outcome_eq_some.mp houtcome with ⟨q, hrun, hgoing, hend, rfl⟩
  have hperform : ∃ cs, commands a = some cs ∧
      (Device.start width).performAll cs = some q.device := by
    rw [show Parser.run a.length (.start a width) = Parser.run (Parser.start a width).rest.length
      (.start a width) from rfl, Parser.outcome_run rfl le_rfl] at houtcome
    rcases Option.bind_eq_some_iff.mp houtcome with ⟨cs, hcs, hmap⟩
    rcases Option.map_eq_some_iff.mp hmap with ⟨d, hd, hpair⟩
    exact ⟨cs, hcs, (Prod.mk.inj hpair).2 ▸ hd⟩
  rcases hperform with ⟨cs, hcs, hperform⟩
  have hwidth : q.device.width = width := Device.width_performAll hperform
  have hsettings : e.settings = settingsLeft a := by
    have hemits := (Device.emits_performAll hperform).andThen (Device.emits_flush hflush)
    have hboth : ((Device.start width).performAll cs).bind Device.flush = some e := by
      rw [hperform]
      exact hflush
    rw [hemits.settings hboth, settingsLeft, hcs]
    rfl
  -- what the second job prints under any settings
  rcases accepts_iff.mp hb with ⟨cs', d', e', hcs', hperform', hflush', rfl⟩
  rcases commands_initialize hcs' with ⟨rest, rfl⟩
  have hrest : (Device.start width).performAll rest = some d' := hperform'
  rcases (Device.emits_performAll hrest).andThen (Device.emits_flush hflush') with
    ⟨printed, hprints, -, hsame⟩
  have hwidth' : e'.width = width :=
    (Device.width_flush hflush').trans (Device.width_performAll hrest)
  have halone : e'.elements = printed .initial := by
    have hself := hprints [] .initial
    rw [show (Device.start width).settled [] .initial = .start width from rfl] at hself
    simp only [hrest, Option.bind_some, hflush'] at hself
    exact congrArg Device.elements (Option.some.inj hself)
  have hbehind := hprints e.elements (settingsLeft a)
  have hinitialized : q.device.performAll (.order .initialise :: rest) =
      ((Device.start width).settled e.elements (settingsLeft a)).performAll rest := by
    have hperform := Device.perform_initialize hflush
    rw [hwidth, hsettings] at hperform
    simp only [Device.performAll, List.foldlM_cons, hperform]
    rfl
  -- what the second job prints behind the first
  rcases Option.bind_eq_some_iff.mp hbehind with ⟨last, hlast, hflush₂⟩
  have haccepts : Accepts (a ++ 0x1b :: 0x40 :: b) width
      ⟨width, e.elements ++ printed (settingsLeft a)⟩ := by
    refine accepts_iff_outcome.mpr ⟨last, _, ?_, hflush₂, by rw [← hwidth']; rfl⟩
    rw [Parser.outcome_append (Parser.advances_of_run hrun) hgoing hend, hcs', Option.bind_some,
      hinitialized, hlast]
    rfl
  rcases haccepts with ⟨diagnostics, hinterpret, -⟩
  have hinherits (sets : Command → Bool) (hsets : sets (.order .initialise) = false) :
      Inherits sets (0x1b :: 0x40 :: b) ↔ inherits sets rest = true := by
    simp [Inherits, hcs', inherits, Command.isBarcode, hsets]
  have hresult : (∃ result, interpret (a ++ 0x1b :: 0x40 :: b) width = .ok result ∧
      result.layout = ⟨width, e.elements ++ e'.elements⟩) ↔
        printed (settingsLeft a) = printed .initial := by
    rw [hinterpret, halone]
    constructor
    · rintro ⟨result, hresult, hlayout⟩
      cases hresult
      exact List.append_cancel_left (PrintLayout.mk.inj hlayout).2
    · intro hsame
      exact ⟨_, rfl, by rw [hsame]⟩
  rw [hresult, hsame, hinherits _ rfl, hinherits _ rfl]
  simp only [Device.sameInherited, and_true, Settings.initial]
  tauto

/-- A job that sets the height of barcodes, before one that prints a barcode. -/
theorem initialize_independent_iff_height :
    (∃ result, interpret ([0x1d, 0x68, 40] ++ 0x1b :: 0x40 :: [0x1d, 0x6b, 69, 1, 65]) .mm80 =
        .ok result ∧
        result.layout = ⟨.mm80, [] ++ [.barcode .code39 "A" 80 true]⟩) ↔
      ((settingsLeft [0x1d, 0x68, 40]).height = 80 ∨
        ¬ Inherits Command.setsHeight (0x1b :: 0x40 :: [0x1d, 0x6b, 69, 1, 65])) ∧
      ((settingsLeft [0x1d, 0x68, 40]).text = true ∨
        ¬ Inherits Command.setsText (0x1b :: 0x40 :: [0x1d, 0x6b, 69, 1, 65])) := by
  have hfirst : Accepts [0x1d, 0x68, 40] .mm80 ⟨.mm80, []⟩ := ⟨_, by rfl, by rfl⟩
  have hsecond : Accepts [0x1b, 0x40, 0x1d, 0x6b, 69, 1, 65] .mm80
      ⟨.mm80, [.barcode .code39 "A" 80 true]⟩ := ⟨_, by rfl, by rfl⟩
  exact initialize_independent_iff hfirst hsecond

/-- **The height survives `ESC @`**: the barcode of the second job has the height that the first
has set. -/
theorem height_survives_initialize :
    ∃ a b layout layout', Accepts a .mm80 layout ∧ Accepts (0x1b :: 0x40 :: b) .mm80 layout' ∧
      ¬ ∃ result, interpret (a ++ 0x1b :: 0x40 :: b) .mm80 = .ok result ∧
        result.layout = ⟨.mm80, layout.elements ++ layout'.elements⟩ := by
  have hlone : Accepts [0x1b, 0x40, 0x1d, 0x6b, 69, 1, 65] .mm80
      ⟨.mm80, [.barcode .code39 "A" 80 true]⟩ := ⟨_, by rfl, by rfl⟩
  refine ⟨[0x1d, 0x68, 40], [0x1d, 0x6b, 69, 1, 65], ⟨.mm80, []⟩, _, ⟨_, by rfl, by rfl⟩, hlone, ?_⟩
  rintro ⟨result, hresult, hlayout⟩
  have hboth : (interpret ([0x1d, 0x68, 40] ++ [0x1b, 0x40, 0x1d, 0x6b, 69, 1, 65]) .mm80).map
      (·.layout) = .ok ⟨.mm80, [.barcode .code39 "A" 40 true]⟩ := by rfl
  rw [hresult] at hboth
  rw [Except.map, hlayout] at hboth
  cases hboth

end Oppa.Renderer
