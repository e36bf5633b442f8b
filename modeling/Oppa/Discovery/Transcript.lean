import Mathlib.Data.List.Infix
import Oppa.Discovery.Lpstat
import Oppa.Discovery.Normal
import Oppa.Protocol.PageRanges

/-!
# The output of `lpstat`

An output is made of the status lines of queues, of indented lines that continue them, and of the
device lines of queues, in any order.

* `LpstatLine`, `render` — the lines of an output and how it is printed.
* `Says` — what a text says about a queue; `reading_eq_some_iff`: a line is read as what it says.
* `Recovers` — the printers of an output: one for each queue, with the address and the availability
  that its own lines tell.
* `Unambiguous` — the indented lines say nothing about a queue that its own lines do not say, and
  the name of a queue is not cut where its device line is read.
* **`recovers_iff`** — the queues are recovered, in every order of the lines, exactly then.
* `prose_is_read_as_queue` — an indented line that begins like the status of a queue.
-/

namespace Oppa.Discovery

open Printer Text

/-! ## Lines -/

/-- A queue name that CUPS accepts: printable characters other than a space, "/" and "#". -/
structure QueueName where
  value : String
  nonempty : value ≠ ""
  legal : ∀ c ∈ value.toList, isControl c = false ∧ c ≠ ' ' ∧ c ≠ '/' ∧ c ≠ '#'

/-- Text on one line. -/
structure LineText where
  value : String
  oneLine : '\n' ∉ value.toList

/-- The text of a status. -/
structure StatusText extends LineText where
  visible : trim value ≠ ""

/-- The address of a device. -/
structure DeviceUri extends LineText where
  nonempty : value ≠ ""
  trimmed : trim value = value

/-- The white space in front of a line. -/
structure Indent extends LineText where
  nonempty : value ≠ ""
  blank : ∀ c ∈ value.toList, isWhitespace c = true

/-- A line of the output. -/
inductive LpstatLine
  | status (name : QueueName) (text : StatusText)
  | continuation (indent : Indent) (prose : LineText)
  | device (name : QueueName) (uri : DeviceUri)

namespace LpstatLine

/-- A line as it is printed. -/
def text : LpstatLine → String
  | status name text => "printer " ++ name.value ++ " " ++ text.value
  | continuation indent prose => indent.value ++ prose.value
  | device name uri => "device for " ++ name.value ++ ": " ++ uri.value

/-- The characters of a line. -/
def chars (line : LpstatLine) : List Char := line.text.toList

/-- What a line says about a queue. -/
def tells : LpstatLine → Option Reading
  | status name text => some (.status name.value (availabilityOf text.value.toList))
  | continuation _ _ => none
  | device name uri => some (.device name.value uri.value)

/-- What a line is read as. -/
def readAs (line : LpstatLine) : Option Reading := reading line.chars

end LpstatLine

/-- An output of some lines. -/
def render (output : List LpstatLine) : String :=
  String.ofList (output.flatMap fun line => line.chars ++ ['\n'])

/-! ## Trimming lines -/

section Trimming

variable {cs front back : List Char} {c : Char}

lemma rdropWhile_append {p : Char → Bool} (hback : back.rdropWhile p ≠ []) :
    (front ++ back).rdropWhile p = front ++ back.rdropWhile p := by
  rw [List.rdropWhile, List.rdropWhile, List.reverse_append, List.dropWhile_append]
  have hne : (List.dropWhile p back.reverse).isEmpty = false := by
    rw [List.rdropWhile, Ne, List.reverse_eq_nil_iff] at hback
    simpa using hback
  rw [hne, if_neg Bool.false_ne_true, List.reverse_append, List.reverse_reverse]

/-- White space in front of a line is of no account. -/
lemma trimChars_append_of_blank (hfront : ∀ c ∈ front, isWhitespace c = true) :
    trimChars (front ++ back) = trimChars back := by
  rw [trimChars, trimChars, List.dropWhile_append_of_pos hfront]

/-- White space at the end of a line is of no account. -/
lemma trimChars_concat (hc : isWhitespace c = true) : trimChars (cs ++ [c]) = trimChars cs := by
  rw [trimChars_eq, trimChars_eq, List.dropWhile_append]
  split_ifs with hempty
  · rw [List.isEmpty_iff.mp hempty]
    simp [hc]
  · rw [List.rdropWhile_concat_pos _ _ _ hc]

/-- A text that follows what begins with a visible character keeps its beginning. -/
lemma trimChars_append (hfront : ∀ c, front.head? = some c → isWhitespace c = false)
    (hne : front ≠ []) (hback : back.rdropWhile isWhitespace ≠ []) :
    trimChars (front ++ back) = front ++ back.rdropWhile isWhitespace := by
  have hdrop : (front ++ back).dropWhile isWhitespace = front ++ back := by
    cases front with
    | nil => exact absurd rfl hne
    | cons first rest =>
        rw [List.cons_append, List.dropWhile_cons, hfront first rfl, if_neg Bool.false_ne_true]
  rw [trimChars_eq, hdrop, rdropWhile_append hback]

end Trimming

/-! ## The lines of an output -/

/-- A line without the carriage return at its end. -/
def withoutReturn (line : List Char) : List Char :=
  if line.getLast? = some '\r' then line.dropLast else line

lemma reading_withoutReturn (line : List Char) : reading (withoutReturn line) = reading line := by
  have htrim : trimChars (withoutReturn line) = trimChars line := by
    rw [withoutReturn]
    split_ifs with hreturn
    · rcases List.getLast?_eq_some_iff.mp hreturn with ⟨front, rfl⟩
      rw [List.dropLast_concat, trimChars_concat (by decide)]
    · rfl
  rw [reading, reading, htrim]

lemma splitOn_flatMap {pieces : List (List Char)} (hpieces : ∀ line ∈ pieces, '\n' ∉ line) :
    (pieces.flatMap fun line => line ++ ['\n']).splitOn '\n' = pieces ++ [[]] := by
  induction pieces with
  | nil => rfl
  | cons line pieces ih =>
      rw [List.flatMap_cons, List.append_assoc, List.singleton_append,
        List.splitOn_append_cons_self_of_not_mem (hpieces line List.mem_cons_self),
        ih fun other hother => hpieces other (List.mem_cons_of_mem _ hother)]
      rfl

/-- An output is read line by line. -/
lemma lines_flatMap {pieces : List (List Char)} (hpieces : ∀ line ∈ pieces, '\n' ∉ line) :
    lines (pieces.flatMap fun line => line ++ ['\n']) = pieces.map withoutReturn := by
  simp only [lines, splitOn_flatMap hpieces, List.dropLast_concat, List.getLast?_concat]
  simp [withoutReturn]

lemma chars_status (name : QueueName) (text : StatusText) :
    (LpstatLine.status name text).chars =
      "printer ".toList ++ (name.value.toList ++ ' ' :: text.value.toList) := by
  simp only [LpstatLine.chars, LpstatLine.text, String.toList_append, List.append_assoc]
  rfl

lemma chars_continuation (indent : Indent) (prose : LineText) :
    (LpstatLine.continuation indent prose).chars = indent.value.toList ++ prose.value.toList := by
  simp only [LpstatLine.chars, LpstatLine.text, String.toList_append]

lemma chars_device (name : QueueName) (uri : DeviceUri) :
    (LpstatLine.device name uri).chars =
      "device for ".toList ++ (name.value.toList ++ ':' :: ' ' :: uri.value.toList) := by
  simp only [LpstatLine.chars, LpstatLine.text, String.toList_append, List.append_assoc]
  rfl

lemma newline_not_mem_chars (line : LpstatLine) : '\n' ∉ line.chars := by
  have hname : ∀ name : QueueName, '\n' ∉ name.value.toList := by
    intro name hmem
    have hcontrol := (name.legal _ hmem).1
    rw [show isControl '\n' = true by decide] at hcontrol
    cases hcontrol
  cases line with
  | status name text =>
      have hstart : '\n' ∉ "printer ".toList := by decide
      have hseparator : '\n' ≠ ' ' := by decide
      rw [chars_status, List.mem_append, List.mem_append, List.mem_cons, not_or, not_or, not_or]
      exact ⟨hstart, hname name, hseparator, text.oneLine⟩
  | continuation indent prose =>
      rw [chars_continuation, List.mem_append, not_or]
      exact ⟨indent.oneLine, prose.oneLine⟩
  | device name uri =>
      have hstart : '\n' ∉ "device for ".toList := by decide
      have hcolon : '\n' ≠ ':' := by decide
      have hseparator : '\n' ≠ ' ' := by decide
      rw [chars_device, List.mem_append, List.mem_append, List.mem_cons, List.mem_cons, not_or,
        not_or, not_or, not_or]
      exact ⟨hstart, hname name, hcolon, hseparator, uri.oneLine⟩

/-- **What is read of an output** is what is read of its lines. -/
lemma readings_render (output : List LpstatLine) :
    readings (render output) = output.filterMap LpstatLine.readAs := by
  have hflat : (output.flatMap fun line => line.chars ++ ['\n']) =
      (output.map LpstatLine.chars).flatMap fun line => line ++ ['\n'] := by
    rw [List.flatMap_map]
  have hlines : ∀ line ∈ output.map LpstatLine.chars, '\n' ∉ line := by
    intro line hline
    rcases List.mem_map.mp hline with ⟨found, _, rfl⟩
    exact newline_not_mem_chars found
  rw [readings, render, String.toList_ofList, hflat, lines_flatMap hlines, List.filterMap_map,
    List.filterMap_map]
  refine List.filterMap_congr fun line _ => ?_
  exact reading_withoutReturn line.chars

/-! ## What the lines of queues are read as -/

section Containing

variable {needle cs : List Char}

lemma contains_iff_infix : contains needle cs = true ↔ needle <:+: cs := by
  simp only [contains, List.any_eq_true, List.mem_tails, List.isPrefixOf_iff_prefix]
  rw [List.infix_iff_prefix_suffix]
  constructor
  · rintro ⟨tail, hsuffix, hprefix⟩
    exact ⟨tail, hprefix, hsuffix⟩
  · rintro ⟨tail, hprefix, hsuffix⟩
    exact ⟨tail, hsuffix, hprefix⟩

lemma infix_concat_iff_of_not_mem {c : Char} (hc : c ∉ needle) (hne : needle ≠ []) :
    needle <:+: cs ++ [c] ↔ needle <:+: cs := by
  rw [List.infix_concat_iff, List.suffix_concat_iff]
  constructor
  · rintro ((hnil | ⟨front, rfl, _⟩) | hinfix)
    · exact absurd hnil hne
    · exact absurd (List.mem_append_right front List.mem_cons_self) hc
    · exact hinfix
  · exact Or.inr

/-- A word without white space is not in the white space at the end of a text. -/
lemma contains_rdropWhile (hneedle : ∀ c ∈ needle, isWhitespace c = false) (hne : needle ≠ []) :
    contains needle ((cs.rdropWhile isWhitespace).map Char.toLower) =
      contains needle (cs.map Char.toLower) := by
  rw [Bool.eq_iff_iff, contains_iff_infix, contains_iff_infix]
  induction cs using List.reverseRecOn with
  | nil => rfl
  | append_singleton cs c ih =>
      by_cases hc : isWhitespace c = true
      · have hlower : c.toLower ∉ needle := by
          intro hmem
          have hvisible := hneedle _ hmem
          rw [isWhitespace_toLower, hc] at hvisible
          cases hvisible
        rw [List.rdropWhile_concat_pos _ _ _ hc, ih, List.map_append, List.map_singleton,
          infix_concat_iff_of_not_mem hlower hne]
      · rw [List.rdropWhile_concat_neg _ _ _ hc]

end Containing

/-- What a list is tested for holds of its characters. -/
lemma forall_mem_of_all {p : Char → Prop} [DecidablePred p] {cs : List Char}
    (hall : cs.all (fun c => decide (p c)) = true) : ∀ c ∈ cs, p c := by
  simpa only [List.all_eq_true, decide_eq_true_eq] using hall

/-- White space at the end of a status is of no account. -/
lemma availabilityOf_rdropWhile (status : List Char) :
    availabilityOf (status.rdropWhile isWhitespace) = availabilityOf status := by
  have hword : ∀ word ∈ ["disabled", "offline", "idle", "printing", "processing", "enabled"],
      word.toList ≠ [] ∧ word.toList.all (fun c => isWhitespace c = false) = true := by
    decide +kernel
  have hcontains : ∀ word ∈ ["disabled", "offline", "idle", "printing", "processing", "enabled"],
      contains word.toList (toAsciiLowercase (status.rdropWhile isWhitespace)) =
        contains word.toList (toAsciiLowercase status) := by
    intro word hmem
    exact contains_rdropWhile (forall_mem_of_all (hword word hmem).2) (hword word hmem).1
  simp only [List.forall_mem_cons] at hcontains
  rcases hcontains with ⟨hdisabled, hoffline, hidle, hprinting, hprocessing, henabled, _⟩
  simp only [availabilityOf, readStatus, tellsOffline, tellsReady, hdisabled, hoffline, hidle,
    hprinting, hprocessing, henabled]

section Splitting

variable {separator : Char} {start : String} {cs front back rest : List Char}

lemma splitOnce_eq_some_iff : Protocol.splitOnce separator cs = some (front, back) ↔
    separator ∉ front ∧ cs = front ++ separator :: back := by
  constructor
  · intro hsplit
    by_cases hmem : separator ∈ cs
    · rcases List.eq_append_cons_of_mem hmem with ⟨found, others, rfl, hnot⟩
      rw [Protocol.splitOnce_append hnot, Option.some.injEq, Prod.mk.injEq] at hsplit
      rcases hsplit with ⟨rfl, rfl⟩
      exact ⟨hnot, rfl⟩
    · rw [Protocol.splitOnce_eq_none hmem] at hsplit
      cases hsplit
  · rintro ⟨hnot, rfl⟩
    exact Protocol.splitOnce_append hnot back

lemma stripPrefix_eq_some_iff : stripPrefix start cs = some rest ↔ cs = start.toList ++ rest := by
  rw [stripPrefix, startsWith, Option.ite_none_right_eq_some, List.isPrefixOf_iff_prefix,
    Option.some.injEq]
  constructor
  · rintro ⟨⟨back, rfl⟩, hrest⟩
    rw [List.drop_left] at hrest
    rw [hrest]
  · rintro rfl
    exact ⟨List.prefix_append _ _, List.drop_left⟩

lemma record_eq_some_iff : (stripPrefix start cs).bind (Protocol.splitOnce separator) =
    some (front, back) ↔
      separator ∉ front ∧ cs = start.toList ++ (front ++ separator :: back) := by
  rw [Option.bind_eq_some_iff]
  constructor
  · rintro ⟨rest, hstrip, hsplit⟩
    rw [stripPrefix_eq_some_iff] at hstrip
    rw [splitOnce_eq_some_iff] at hsplit
    exact ⟨hsplit.1, by rw [hstrip, hsplit.2]⟩
  · rintro ⟨hnot, hcs⟩
    exact ⟨_, stripPrefix_eq_some_iff.mpr hcs, splitOnce_eq_some_iff.mpr ⟨hnot, rfl⟩⟩

end Splitting

/-- What a line says about a queue, whoever wrote it. -/
inductive Says (line : List Char) : Reading → Prop
  | status {name status : List Char} : ' ' ∉ name →
      trimChars line = "printer ".toList ++ (name ++ ' ' :: status) →
      Says line (.status (String.ofList name) (availabilityOf status))
  | device {name uri : List Char} : ':' ∉ name →
      trimChars line = "device for ".toList ++ (name ++ ':' :: uri) →
      trimChars name ≠ [] → trimChars uri ≠ [] →
      Says line (.device (String.ofList (trimChars name)) (String.ofList (trimChars uri)))

/-- A device line does not begin like a status line. -/
lemma record_of_device (rest : List Char) :
    (stripPrefix "printer " ("device for ".toList ++ rest)).bind (Protocol.splitOnce ' ') =
      none := by
  have hstart : "printer ".toList = 'p' :: "rinter ".toList := rfl
  have hdevice : "device for ".toList = 'd' :: "evice for ".toList := rfl
  have hdistinct : ('p' == 'd') = false := by decide
  rw [stripPrefix, startsWith, hstart, hdevice, List.cons_append, List.isPrefixOf_cons_cons,
    hdistinct, Bool.false_and, if_neg Bool.false_ne_true]
  rfl

/-- **A line is read as what it says.** -/
lemma reading_eq_some_iff {line : List Char} {found : Reading} :
    reading line = some found ↔ Says line found := by
  constructor
  · intro hreading
    rw [reading] at hreading
    cases hstatus : (stripPrefix "printer " (trimChars line)).bind (Protocol.splitOnce ' ') with
    | some parts =>
        rcases parts with ⟨name, status⟩
        simp only [hstatus, Option.some.injEq] at hreading
        rw [record_eq_some_iff] at hstatus
        rw [← hreading]
        exact .status hstatus.1 hstatus.2
    | none =>
        simp only [hstatus] at hreading
        cases hdevice : (stripPrefix "device for " (trimChars line)).bind
            (Protocol.splitOnce ':') with
        | some parts =>
            rcases parts with ⟨name, uri⟩
            simp only [hdevice, Option.ite_none_right_eq_some, Option.some.injEq] at hreading
            rcases hreading with ⟨⟨hname, huri⟩, rfl⟩
            rw [record_eq_some_iff] at hdevice
            exact .device hdevice.1 hdevice.2 hname huri
        | none =>
            simp only [hdevice] at hreading
            cases hreading
  · intro htext
    cases htext with
    | status hname hline =>
        simp only [reading, record_eq_some_iff.mpr ⟨hname, hline⟩]
    | device hname hline hvisible huri =>
        have hrecord := record_eq_some_iff.mpr ⟨hname, hline⟩
        rw [reading]
        simp only [hrecord]
        rw [hline, record_of_device]
        simp only [if_pos (And.intro hvisible huri)]

/-- A line that begins with "printer" or "device" is trimmed at its end only. -/
lemma trimChars_record (start : String) (front : List Char) {c : Char} {back : List Char}
    (hstart : start.toList.head? = some c) (hc : isWhitespace c = false)
    (hback : back.rdropWhile isWhitespace ≠ []) :
    trimChars (start.toList ++ (front ++ back)) =
      start.toList ++ (front ++ back.rdropWhile isWhitespace) := by
  rw [← List.append_assoc, ← List.append_assoc]
  refine trimChars_append ?_ ?_ hback
  · intro first hfirst
    rw [List.head?_append, hstart, Option.some_or, Option.some.injEq] at hfirst
    rw [← hfirst]
    exact hc
  · intro hnil
    rw [(List.append_eq_nil_iff.mp hnil).1] at hstart
    cases hstart

/-- A status line says what it tells. -/
lemma says_status (name : QueueName) (text : StatusText) :
    Says (LpstatLine.status name text).chars
      (.status name.value (availabilityOf text.value.toList)) := by
  have hname : ' ' ∉ name.value.toList := fun hmem => (name.legal _ hmem).2.1 rfl
  have hvisible : text.value.toList.rdropWhile isWhitespace ≠ [] := by
    intro hnil
    have hblank := List.rdropWhile_eq_nil_iff.mp hnil
    refine text.visible ?_
    rw [← String.toList_inj, toList_trim, trimChars_eq, List.dropWhile_eq_nil_iff.mpr hblank]
    rfl
  have hline : trimChars (LpstatLine.status name text).chars =
      "printer ".toList ++
        (name.value.toList ++ ' ' :: text.value.toList.rdropWhile isWhitespace) := by
    have hstart : "printer ".toList.head? = some 'p' := rfl
    have hrecord := trimChars_record "printer " (name.value.toList ++ [' ']) hstart (by decide)
      hvisible
    rw [chars_status]
    simpa only [List.append_assoc, List.singleton_append] using hrecord
  have htext := Says.status hname hline
  rwa [availabilityOf_rdropWhile, String.ofList_toList] at htext

/-- A name that is not cut where a device line is read. -/
def QueueName.Plain (name : QueueName) : Prop :=
  ':' ∉ name.value.toList ∧ trim name.value = name.value

/-- A device line says what it tells when the name of the queue is not cut. -/
lemma says_device {name : QueueName} (hplain : name.Plain) (uri : DeviceUri) :
    Says (LpstatLine.device name uri).chars (.device name.value uri.value) := by
  have huri : trimChars uri.value.toList = uri.value.toList := trim_eq_self_iff.mp uri.trimmed
  have hname : trimChars name.value.toList = name.value.toList := trim_eq_self_iff.mp hplain.2
  have hne : uri.value.toList ≠ [] := fun hnil => uri.nonempty (String.toList_eq_nil_iff.mp hnil)
  have hnamed : name.value.toList ≠ [] := fun hnil =>
    name.nonempty (String.toList_eq_nil_iff.mp hnil)
  have hend : uri.value.toList.rdropWhile isWhitespace = uri.value.toList := by
    rw [List.rdropWhile_eq_self_iff]
    intro _
    rw [(trimChars_eq_self_iff.mp huri).2 _ (List.getLast?_eq_some_getLast hne)]
    exact Bool.false_ne_true
  have hline : trimChars (LpstatLine.device name uri).chars =
      "device for ".toList ++ (name.value.toList ++ ':' :: ' ' :: uri.value.toList) := by
    have hstart : "device for ".toList.head? = some 'd' := rfl
    have hrecord := trimChars_record "device for " (name.value.toList ++ [':', ' ']) hstart
      (by decide) (hend.trans_ne hne)
    rw [chars_device]
    rw [hend] at hrecord
    simpa only [List.append_assoc, List.cons_append, List.nil_append] using hrecord
  have hrest : trimChars (' ' :: uri.value.toList) = uri.value.toList := by
    rw [← List.singleton_append, trimChars_append_of_blank (by simp; decide), huri]
  have htext := Says.device hplain.1 hline (by rw [hname]; exact hnamed) (by rw [hrest]; exact hne)
  rwa [hname, hrest, String.ofList_toList, String.ofList_toList] at htext

/-! ## Whose lines say what -/

section Own

variable {output : List LpstatLine} {line : LpstatLine} {found : Reading} {name : String}

/-- A queue that a line of its own names. -/
def Named (name : String) (output : List LpstatLine) : Prop :=
  ∃ line ∈ output, ∃ found, line.tells = some found ∧ found.name = name

/-- The availability that the last status line of a queue tells. -/
def ownStatus (name : String) (output : List LpstatLine) : Option PrinterAvailability :=
  lastOf (fun line => line.tells.bind (Reading.statusOf name)) output

/-- The address that the last device line of a queue tells. -/
def ownUri (name : String) (output : List LpstatLine) : Option String :=
  lastOf (fun line => line.tells.bind (Reading.uriOf name)) output

/-- **The printers of an output**: one for each queue and no other, with the address and the
availability that its own lines tell. -/
structure Recovers (output : List LpstatLine) (printers : List DiscoveredPrinter) : Prop where
  distinct : (printers.map (·.name)).Nodup
  complete : ∀ name, Named name output → ∃ printer ∈ printers, printer.name = name
  named : ∀ printer ∈ printers, Named printer.name output
  connection : ∀ printer ∈ printers, printer.connection = .systemQueue printer.name
  uri : ∀ printer ∈ printers, printer.fingerprint.deviceUri = ownUri printer.name output
  availability : ∀ printer ∈ printers,
    printer.availability = (ownStatus printer.name output).getD .unknown

/-- **Lines that are not taken for others.**  An indented line that says something about a queue
says what the lines of the queue itself say, and device lines have plain names. -/
structure Unambiguous (lines : List LpstatLine) : Prop where
  names : ∀ name uri, LpstatLine.device name uri ∈ lines → name.Plain
  status : ∀ indent prose, LpstatLine.continuation indent prose ∈ lines →
    ∀ name availability,
      Says (indent.value.toList ++ prose.value.toList) (.status name availability) →
        Named name lines ∧
        (∀ line ∈ lines, ∀ own, line.tells = some (.status name own) → own = availability) ∧
        ((∀ line ∈ lines, ∀ own, line.tells ≠ some (.status name own)) → availability = .unknown)
  device : ∀ indent prose, LpstatLine.continuation indent prose ∈ lines →
    ∀ name uri, Says (indent.value.toList ++ prose.value.toList) (.device name uri) →
      (∃ line ∈ lines, line.tells = some (.device name uri)) ∧
      ∀ line ∈ lines, ∀ own, line.tells = some (.device name own) → own = uri

lemma readAs_eq_some_iff : line.readAs = some found ↔ Says line.chars found :=
  reading_eq_some_iff

/-- The address of a device is read for a name without a colon and without white space around. -/
lemma plain_of_says {cs : List Char} {uri : String} (htext : Says cs (.device name uri)) :
    ':' ∉ name.toList ∧ trim name = name := by
  cases htext with
  | @device raw _ hname _ _ _ =>
      refine ⟨?_, ?_⟩
      · rw [String.toList_ofList, trimChars_eq]
        intro hmem
        have hkept := (List.rdropWhile_prefix isWhitespace _).subset hmem
        exact hname ((List.dropWhile_suffix isWhitespace).subset hkept)
      · rw [trim, String.toList_ofList, trimChars_trimChars]

/-- What is read of a line that is not indented is what the line tells, if its name is plain. -/
lemma readAs_eq_tells (hindent : ∀ indent prose, line ≠ .continuation indent prose)
    (hplain : ∀ name uri, line = .device name uri → name.Plain) : line.readAs = line.tells := by
  cases line with
  | status name text => exact readAs_eq_some_iff.mpr (says_status name text)
  | continuation indent prose => exact absurd rfl (hindent indent prose)
  | device name uri => exact readAs_eq_some_iff.mpr (says_device (hplain name uri rfl) uri)

lemma statusOf_eq_some_iff {availability : PrinterAvailability} :
    found.statusOf name = some availability ↔ found = .status name availability := by
  cases found with
  | status other told =>
      simp only [Reading.statusOf, Option.ite_none_right_eq_some, Option.some.injEq,
        Reading.status.injEq]
  | device other uri => simp [Reading.statusOf]

lemma uriOf_eq_some_iff {uri : String} :
    found.uriOf name = some uri ↔ found = .device name uri := by
  cases found with
  | status other told => simp [Reading.uriOf]
  | device other told =>
      simp only [Reading.uriOf, Option.ite_none_right_eq_some, Option.some.injEq,
        Reading.device.injEq]

lemma bind_statusOf {told : Option Reading} {availability : PrinterAvailability} :
    told.bind (Reading.statusOf name) = some availability ↔
      told = some (.status name availability) := by
  rw [Option.bind_eq_some_iff]
  simp only [statusOf_eq_some_iff, exists_eq_right]

lemma bind_uriOf {told : Option Reading} {uri : String} :
    told.bind (Reading.uriOf name) = some uri ↔ told = some (.device name uri) := by
  rw [Option.bind_eq_some_iff]
  simp only [uriOf_eq_some_iff, exists_eq_right]

/-- The availability that is read last for a queue. -/
def seenStatus (name : String) (output : List LpstatLine) : Option PrinterAvailability :=
  lastOf (fun line => line.readAs.bind (Reading.statusOf name)) output

/-- The address that is read last for a queue. -/
def seenUri (name : String) (output : List LpstatLine) : Option String :=
  lastOf (fun line => line.readAs.bind (Reading.uriOf name)) output

lemma mem_parse_render_iff {printer : DiscoveredPrinter} :
    printer ∈ parseLpstat (render output) ↔
      ∃ name queue, queueOf (seenStatus name output) (seenUri name output) = some queue ∧
        printer = queue.printer name := by
  simp only [mem_parseLpstat_iff, readings_render, lastOf_filterMap, seenStatus, seenUri]

/-- No status line tells that a queue is degraded. -/
lemma seenStatus_ne_degraded : seenStatus name output ≠ some .degraded := by
  intro hdegraded
  rcases exists_of_lastOf hdegraded with ⟨line, _, htold⟩
  rw [bind_statusOf, readAs_eq_some_iff] at htold
  generalize hreading : Reading.status name .degraded = found at htold
  cases htold with
  | device => cases hreading
  | status _ _ =>
      rw [Reading.status.injEq, availabilityOf, Queue.availability] at hreading
      split_ifs at hreading
      all_goals cases hreading.2

lemma queueOf_eq_some {status : Option PrinterAvailability} {uri : Option String} {queue : Queue}
    (hstatus : status ≠ some .degraded) (hqueue : queueOf status uri = some queue) :
    (status ≠ none ∨ uri ≠ none) ∧ queue.availability = status.getD .unknown ∧
      queue.uri = uri := by
  cases status with
  | none =>
      cases uri with
      | none => cases hqueue
      | some uri =>
          cases hqueue
          exact ⟨.inr (Option.some_ne_none uri), rfl, rfl⟩
  | some availability =>
      refine ⟨.inl (Option.some_ne_none availability), ?_⟩
      cases availability with
      | degraded => exact absurd rfl hstatus
      | online | offline | unknown => cases uri <;> cases hqueue <;> exact ⟨rfl, rfl⟩

lemma exists_queueOf {status : Option PrinterAvailability} {uri : Option String}
    (hsome : status ≠ none ∨ uri ≠ none) : ∃ queue, queueOf status uri = some queue := by
  cases status with
  | none =>
      cases uri with
      | none => simp at hsome
      | some uri => exact ⟨_, rfl⟩
  | some availability => exact ⟨_, rfl⟩

/-- A queue is named when one of its lines tells its availability or its address. -/
lemma named_iff : Named name output ↔ ownStatus name output ≠ none ∨ ownUri name output ≠ none := by
  have hstatus : ownStatus name output ≠ none ↔
      ∃ line ∈ output, ∃ availability, line.tells = some (.status name availability) := by
    simp only [ownStatus, lastOf_ne_none_iff, bind_statusOf]
  have huri : ownUri name output ≠ none ↔
      ∃ line ∈ output, ∃ uri, line.tells = some (.device name uri) := by
    simp only [ownUri, lastOf_ne_none_iff, bind_uriOf]
  rw [hstatus, huri]
  constructor
  · rintro ⟨line, hline, found, htells, hname⟩
    cases found with
    | status found availability => exact .inl ⟨line, hline, availability, hname ▸ htells⟩
    | device found uri => exact .inr ⟨line, hline, uri, hname ▸ htells⟩
  · rintro (⟨line, hline, availability, htells⟩ | ⟨line, hline, uri, htells⟩)
    · exact ⟨line, hline, _, htells, rfl⟩
    · exact ⟨line, hline, _, htells, rfl⟩

/-- **The queues are recovered** when what is read last for a name is what its own lines tell. -/
lemma recovers_iff_seen : Recovers output (parseLpstat (render output)) ↔
    ∀ name, (seenStatus name output ≠ none ∨ seenUri name output ≠ none ↔ Named name output) ∧
      (Named name output → seenUri name output = ownUri name output ∧
        (seenStatus name output).getD .unknown = (ownStatus name output).getD .unknown) := by
  constructor
  · intro hrecovers name
    have hnamed : Named name output →
        ∃ queue, queueOf (seenStatus name output) (seenUri name output) = some queue ∧
          queue.printer name ∈ parseLpstat (render output) := by
      intro hnamed
      rcases hrecovers.complete name hnamed with ⟨printer, hprinter, rfl⟩
      rcases mem_parse_render_iff.mp hprinter with ⟨found, queue, hqueue, rfl⟩
      exact ⟨queue, hqueue, hprinter⟩
    refine ⟨⟨?_, ?_⟩, ?_⟩
    · intro hseen
      rcases exists_queueOf hseen with ⟨queue, hqueue⟩
      exact hrecovers.named _ (mem_parse_render_iff.mpr ⟨name, queue, hqueue, rfl⟩)
    · intro hname
      rcases hnamed hname with ⟨queue, hqueue, _⟩
      exact (queueOf_eq_some seenStatus_ne_degraded hqueue).1
    · intro hname
      rcases hnamed hname with ⟨queue, hqueue, hprinter⟩
      rcases queueOf_eq_some seenStatus_ne_degraded hqueue with ⟨_, havailability, huri⟩
      exact ⟨huri.symm.trans (hrecovers.uri _ hprinter),
        havailability.symm.trans (hrecovers.availability _ hprinter)⟩
  · intro hseen
    refine ⟨nodup_names_parseLpstat, ?_, ?_, ?_, ?_, ?_⟩
    · intro name hname
      rcases exists_queueOf ((hseen name).1.mpr hname) with ⟨queue, hqueue⟩
      exact ⟨queue.printer name, mem_parse_render_iff.mpr ⟨name, queue, hqueue, rfl⟩, rfl⟩
    all_goals
      intro printer hprinter
      rcases mem_parse_render_iff.mp hprinter with ⟨name, queue, hqueue, rfl⟩
      rcases queueOf_eq_some seenStatus_ne_degraded hqueue with ⟨hsome, havailability, huri⟩
      have hname := (hseen name).1.mp hsome
    · exact hname
    · rfl
    · exact huri.trans ((hseen name).2 hname).1
    · exact havailability.trans ((hseen name).2 hname).2

end Own

/-! ## Every order of the lines -/

section Orders

variable {output lines : List LpstatLine} {line : LpstatLine} {name : String}

lemma exists_perm_concat {α : Type} {x : α} {xs : List α} (hx : x ∈ xs) :
    ∃ ys, (ys ++ [x]).Perm xs := by
  rcases List.append_of_mem hx with ⟨front, back, rfl⟩
  refine ⟨front ++ back, ?_⟩
  rw [List.append_assoc]
  exact List.Perm.append_left front List.perm_append_comm

lemma Named.perm (hperm : output.Perm lines) (hnamed : Named name output) : Named name lines := by
  rcases hnamed with ⟨line, hline, found, htells⟩
  exact ⟨line, hperm.subset hline, found, htells⟩

/-- An indented line can be the last line, right behind a line that tells something. -/
lemma exists_perm_last {told : LpstatLine} (hline : line ∈ lines) (hsilent : line.tells = none)
    (htold : told ∈ lines) (htells : told.tells ≠ none) :
    ∃ front, (front ++ [told] ++ [line]).Perm lines := by
  rcases exists_perm_concat hline with ⟨others, hothers⟩
  have hmem : told ∈ others := by
    rcases List.mem_append.mp (hothers.symm.subset htold) with hmem | hlast
    · exact hmem
    · rw [List.mem_singleton.mp hlast] at htells
      exact absurd hsilent htells
  rcases exists_perm_concat hmem with ⟨front, hfront⟩
  exact ⟨front, (hfront.append_right [line]).trans hothers⟩

section Necessary

variable (hrecovers : ∀ output, output.Perm lines → Recovers output (parseLpstat (render output)))

include hrecovers

/-- A name that is cut has no device line that is read. -/
lemma plain_of_recovers {name : QueueName} {uri : DeviceUri}
    (hdevice : LpstatLine.device name uri ∈ lines) : name.Plain := by
  have hnamed : Named name.value lines := ⟨_, hdevice, _, rfl, rfl⟩
  have hown : ownUri name.value lines ≠ none := by
    rw [ownUri, lastOf_ne_none_iff]
    exact ⟨_, hdevice, uri.value, bind_uriOf.mpr rfl⟩
  rw [← ((recovers_iff_seen.mp (hrecovers lines (.refl _)) name.value).2 hnamed).1, seenUri,
    lastOf_ne_none_iff] at hown
  rcases hown with ⟨line, _, found, htold⟩
  exact plain_of_says (readAs_eq_some_iff.mp (bind_uriOf.mp htold))

lemma status_of_recovers {indent : Indent} {prose : LineText} {availability : PrinterAvailability}
    (hline : LpstatLine.continuation indent prose ∈ lines)
    (hread : (LpstatLine.continuation indent prose).readAs = some (.status name availability)) :
    Named name lines ∧
      (∀ line ∈ lines, ∀ own, line.tells = some (.status name own) → own = availability) ∧
      ((∀ line ∈ lines, ∀ own, line.tells ≠ some (.status name own)) →
        availability = .unknown) := by
  have hlast : ∀ front, (front ++ [LpstatLine.continuation indent prose]).Perm lines →
      Named name lines ∧ availability = (ownStatus name front).getD .unknown := by
    intro front hperm
    have hseen : seenStatus name (front ++ [LpstatLine.continuation indent prose]) =
        some availability := by
      rw [seenStatus, lastOf_concat, bind_statusOf.mpr hread, Option.some_or]
    have hown : ownStatus name (front ++ [LpstatLine.continuation indent prose]) =
        ownStatus name front := by
      rw [ownStatus, lastOf_concat]
      rfl
    have hall := recovers_iff_seen.mp (hrecovers _ hperm) name
    have hnamed := hall.1.mp (.inl (by rw [hseen]; exact Option.some_ne_none _))
    have hsame := (hall.2 hnamed).2
    rw [hseen, hown, Option.getD_some] at hsame
    exact ⟨hnamed.perm hperm, hsame⟩
  rcases exists_perm_concat hline with ⟨others, hothers⟩
  refine ⟨(hlast others hothers).1, ?_, ?_⟩
  · intro told htold own htells
    rcases exists_perm_last hline rfl htold (by rw [htells]; exact Option.some_ne_none _) with
      ⟨front, hperm⟩
    have hsame := (hlast _ hperm).2
    rw [ownStatus, lastOf_concat, bind_statusOf.mpr htells] at hsame
    exact hsame.symm
  · intro hnone
    have hown : ownStatus name others = none := by
      rw [ownStatus, lastOf_eq_none_iff]
      intro told htold
      rw [Option.eq_none_iff_forall_ne_some]
      intro own hbind
      exact hnone told (hothers.subset (List.mem_append_left _ htold)) own (bind_statusOf.mp hbind)
    rw [(hlast others hothers).2, hown]
    rfl

lemma device_of_recovers {indent : Indent} {prose : LineText} {uri : String}
    (hline : LpstatLine.continuation indent prose ∈ lines)
    (hread : (LpstatLine.continuation indent prose).readAs = some (.device name uri)) :
    (∃ line ∈ lines, line.tells = some (.device name uri)) ∧
      ∀ line ∈ lines, ∀ own, line.tells = some (.device name own) → own = uri := by
  have hlast : ∀ front, (front ++ [LpstatLine.continuation indent prose]).Perm lines →
      ownUri name front = some uri := by
    intro front hperm
    have hseen : seenUri name (front ++ [LpstatLine.continuation indent prose]) = some uri := by
      rw [seenUri, lastOf_concat, bind_uriOf.mpr hread, Option.some_or]
    have hown : ownUri name (front ++ [LpstatLine.continuation indent prose]) =
        ownUri name front := by
      rw [ownUri, lastOf_concat]
      rfl
    have hall := recovers_iff_seen.mp (hrecovers _ hperm) name
    have hnamed := hall.1.mp (.inr (by rw [hseen]; exact Option.some_ne_none _))
    rw [← hown, ← (hall.2 hnamed).1, hseen]
  rcases exists_perm_concat hline with ⟨others, hothers⟩
  refine ⟨?_, ?_⟩
  · rcases exists_of_lastOf (hlast others hothers) with ⟨told, htold, hbind⟩
    exact ⟨told, hothers.subset (List.mem_append_left _ htold), bind_uriOf.mp hbind⟩
  · intro told htold own htells
    rcases exists_perm_last hline rfl htold (by rw [htells]; exact Option.some_ne_none _) with
      ⟨front, hperm⟩
    have hsame := hlast _ hperm
    rw [ownUri, lastOf_concat, bind_uriOf.mpr htells, Option.some_or, Option.some.injEq] at hsame
    exact hsame

end Necessary

section Sufficient

/-- What is read last is what is told last, if what is told is read and what is read beyond it
is what every line tells. -/
lemma lastOf_eq_lastOf {β : Type} {own seen : LpstatLine → Option β}
    (hown : ∀ line ∈ lines, ∀ y, own line = some y → seen line = some y)
    (hseen : ∀ line ∈ lines, ∀ y, seen line = some y →
      own line = some y ∨ ∀ told ∈ lines, ∀ z, own told = some z → z = y)
    (hsome : lastOf own lines ≠ none) : lastOf seen lines = lastOf own lines := by
  rcases Option.ne_none_iff_exists'.mp hsome with ⟨y, hy⟩
  rcases exists_of_lastOf hy with ⟨told, htold, htells⟩
  by_cases hall : ∀ line ∈ lines, ∀ z, seen line = some z → own line = some z
  · refine lastOf_congr fun line hline => Option.ext fun z => ?_
    exact ⟨hall line hline z, hown line hline z⟩
  · simp only [not_forall] at hall
    rcases hall with ⟨other, hother, read, hread, hne⟩
    have hsame : y = read := (hseen other hother read hread).resolve_left hne told htold y htells
    have hreads : lastOf seen lines ≠ none :=
      lastOf_ne_none_iff.mpr ⟨told, htold, y, hown told htold y htells⟩
    rcases Option.ne_none_iff_exists'.mp hreads with ⟨z, hz⟩
    rcases exists_of_lastOf hz with ⟨last, hlast, hlastRead⟩
    rw [hy, hz, Option.some.injEq]
    rcases hseen last hlast z hlastRead with htold' | hevery
    · exact ((hseen other hother read hread).resolve_left hne last hlast z htold').trans hsame.symm
    · exact (hevery told htold y htells).symm

variable (hplain : Unambiguous output)

include hplain

/-- What a line tells is read. -/
lemma readAs_of_tells {found : Reading} (hline : line ∈ output)
    (htells : line.tells = some found) : line.readAs = some found := by
  rw [readAs_eq_tells ?_ ?_, htells]
  · rintro indent prose rfl
    cases htells
  · rintro name uri rfl
    exact hplain.names name uri hline

/-- What is read is what a line tells, unless the line is indented. -/
lemma tells_or_says {found : Reading} (hline : line ∈ output)
    (hread : line.readAs = some found) : line.tells = some found ∨
      ∃ indent prose, line = .continuation indent prose ∧
        Says (indent.value.toList ++ prose.value.toList) found := by
  by_cases hindent : ∃ indent prose, line = .continuation indent prose
  · rcases hindent with ⟨indent, prose, rfl⟩
    rw [readAs_eq_some_iff, chars_continuation] at hread
    exact .inr ⟨indent, prose, rfl, hread⟩
  · simp only [not_exists] at hindent
    rw [readAs_eq_tells hindent ?_] at hread
    · exact .inl hread
    · rintro name uri rfl
      exact hplain.names name uri hline

lemma seenUri_eq_ownUri : seenUri name output = ownUri name output := by
  have hown : ∀ line ∈ output, ∀ y, line.tells.bind (Reading.uriOf name) = some y →
      line.readAs.bind (Reading.uriOf name) = some y := by
    intro line hline y htells
    rw [bind_uriOf] at htells ⊢
    exact readAs_of_tells hplain hline htells
  have hseen : ∀ line ∈ output, ∀ y, line.readAs.bind (Reading.uriOf name) = some y →
      line.tells.bind (Reading.uriOf name) = some y ∨
        (∃ told ∈ output, told.tells = some (.device name y)) ∧
          ∀ told ∈ output, ∀ z, told.tells.bind (Reading.uriOf name) = some z → z = y := by
    intro line hline y hread
    simp only [bind_uriOf] at hread ⊢
    rcases tells_or_says hplain hline hread with htells | ⟨indent, prose, rfl, htext⟩
    · exact .inl htells
    · exact .inr (hplain.device indent prose hline name y htext)
  by_cases hsome : ownUri name output = none
  · have hnone := lastOf_eq_none_iff.mp hsome
    rw [hsome, seenUri, lastOf_eq_none_iff]
    intro line hline
    rw [Option.eq_none_iff_forall_ne_some]
    intro y hread
    rcases hseen line hline y hread with htells | ⟨⟨told, htold, htells⟩, _⟩
    · rw [hnone line hline] at htells
      cases htells
    · have hbind := hnone told htold
      rw [bind_uriOf.mpr htells] at hbind
      cases hbind
  · refine lastOf_eq_lastOf hown ?_ hsome
    intro line hline y hread
    exact (hseen line hline y hread).imp id And.right

lemma seenStatus_eq_ownStatus :
    (seenStatus name output).getD .unknown = (ownStatus name output).getD .unknown := by
  have hseen : ∀ line ∈ output, ∀ y, line.readAs.bind (Reading.statusOf name) = some y →
      line.tells.bind (Reading.statusOf name) = some y ∨
        (∀ told ∈ output, ∀ z, told.tells.bind (Reading.statusOf name) = some z → z = y) ∧
          ((∀ told ∈ output, ∀ z, told.tells ≠ some (.status name z)) → y = .unknown) := by
    intro line hline y hread
    simp only [bind_statusOf] at hread ⊢
    rcases tells_or_says hplain hline hread with htells | ⟨indent, prose, rfl, htext⟩
    · exact .inl htells
    · exact .inr (hplain.status indent prose hline name y htext).2
  by_cases hsome : ownStatus name output = none
  · have hnone := lastOf_eq_none_iff.mp hsome
    rw [hsome, Option.getD_none]
    cases hlast : seenStatus name output with
    | none => rfl
    | some y =>
        rcases exists_of_lastOf hlast with ⟨line, hline, hread⟩
        rcases hseen line hline y hread with htells | ⟨_, hunknown⟩
        · rw [hnone line hline] at htells
          cases htells
        · refine hunknown fun told htold z htells => ?_
          have hbind := hnone told htold
          rw [bind_statusOf.mpr htells] at hbind
          cases hbind
  · have hown : ∀ line ∈ output, ∀ y, line.tells.bind (Reading.statusOf name) = some y →
        line.readAs.bind (Reading.statusOf name) = some y := by
      intro line hline y htells
      rw [bind_statusOf] at htells ⊢
      exact readAs_of_tells hplain hline htells
    have hlast : seenStatus name output = ownStatus name output := by
      refine lastOf_eq_lastOf hown ?_ hsome
      intro line hline y hread
      exact (hseen line hline y hread).imp id And.left
    rw [hlast]

/-- The queues that are read are those that their own lines name. -/
lemma seen_iff_named :
    seenStatus name output ≠ none ∨ seenUri name output ≠ none ↔ Named name output := by
  rw [seenStatus, seenUri, lastOf_ne_none_iff, lastOf_ne_none_iff]
  simp only [bind_statusOf, bind_uriOf]
  constructor
  · rintro (⟨line, hline, availability, hread⟩ | ⟨line, hline, uri, hread⟩)
    · rcases tells_or_says hplain hline hread with htells | ⟨indent, prose, rfl, htext⟩
      · exact ⟨line, hline, _, htells, rfl⟩
      · exact (hplain.status indent prose hline name availability htext).1
    · rcases tells_or_says hplain hline hread with htells | ⟨indent, prose, rfl, htext⟩
      · exact ⟨line, hline, _, htells, rfl⟩
      · rcases (hplain.device indent prose hline name uri htext).1 with ⟨told, htold, htells⟩
        exact ⟨told, htold, _, htells, rfl⟩
  · rintro ⟨line, hline, found, htells, rfl⟩
    have hread := readAs_of_tells hplain hline htells
    cases found with
    | status found availability => exact .inl ⟨line, hline, availability, hread⟩
    | device found uri => exact .inr ⟨line, hline, uri, hread⟩

end Sufficient

/-- The order of the lines is of no account for what they are taken for. -/
lemma Unambiguous.perm (hplain : Unambiguous lines) (hperm : output.Perm lines) :
    Unambiguous output where
  names name uri hline := hplain.names name uri (hperm.subset hline)
  status indent prose hline name availability htext := by
    rcases hplain.status indent prose (hperm.subset hline) name availability htext with
      ⟨hnamed, hsame, hunknown⟩
    refine ⟨hnamed.perm hperm.symm, fun told htold => hsame told (hperm.subset htold), ?_⟩
    intro hnone
    exact hunknown fun told htold => hnone told (hperm.symm.subset htold)
  device indent prose hline name uri htext := by
    rcases hplain.device indent prose (hperm.subset hline) name uri htext with
      ⟨⟨told, htold, htells⟩, hsame⟩
    exact ⟨⟨told, hperm.symm.subset htold, htells⟩,
      fun told htold => hsame told (hperm.subset htold)⟩

/-- **The queues of an output are recovered**, in every order of its lines, exactly when no
indented line says something about a queue that the lines of the queue do not say and no device line
has a name that is cut. -/
theorem recovers_iff :
    (∀ output, output.Perm lines → Recovers output (parseLpstat (render output))) ↔
      Unambiguous lines := by
  constructor
  · intro hrecovers
    refine ⟨fun name uri => plain_of_recovers hrecovers, ?_, ?_⟩
    · intro indent prose hline name availability htext
      refine status_of_recovers hrecovers hline ?_
      rw [readAs_eq_some_iff, chars_continuation]
      exact htext
    · intro indent prose hline name uri htext
      refine device_of_recovers hrecovers hline ?_
      rw [readAs_eq_some_iff, chars_continuation]
      exact htext
  · intro hplain output hperm
    have houtput := hplain.perm hperm
    rw [recovers_iff_seen]
    intro name
    exact ⟨seen_iff_named houtput,
      fun _ => ⟨seenUri_eq_ownUri houtput, seenStatus_eq_ownStatus houtput⟩⟩

end Orders

/-- A queue that is disabled, and the reason that CUPS prints below it. -/
def pausedOutput : List LpstatLine :=
  [.status ⟨"Office", by decide, forall_mem_of_all (by decide +kernel)⟩
      { value := "disabled since yesterday -", oneLine := by decide +kernel,
        visible := by decide +kernel },
    .continuation
      { value := "\t", oneLine := by decide +kernel, nonempty := by decide,
        blank := forall_mem_of_all (by decide +kernel) }
      { value := "printer is offline", oneLine := by decide +kernel }]

/-- **An indented line is taken for the status of a queue** when it begins like one: a queue "is"
is found that no line names. -/
theorem prose_is_read_as_queue :
    (parseLpstat (render pausedOutput)).map (·.name) = ["Office", "is"] ∧
      ¬ Recovers pausedOutput (parseLpstat (render pausedOutput)) := by
  have hnames : (parseLpstat (render pausedOutput)).map (·.name) = ["Office", "is"] := by
    decide +kernel
  refine ⟨hnames, ?_⟩
  intro hrecovers
  have his : "is" ∈ (parseLpstat (render pausedOutput)).map (·.name) := by
    rw [hnames]
    decide
  rcases List.mem_map.mp his with ⟨printer, hprinter, hname⟩
  rcases hrecovers.named printer hprinter with ⟨line, hline, found, htells, hfound⟩
  rw [hname] at hfound
  simp only [pausedOutput, List.mem_cons, List.not_mem_nil, or_false] at hline
  rcases hline with rfl | rfl
  · simp only [LpstatLine.tells, Option.some.injEq] at htells
    rw [← htells] at hfound
    have hother : "Office" ≠ "is" := by decide
    exact hother hfound
  · cases htells

end Oppa.Discovery
