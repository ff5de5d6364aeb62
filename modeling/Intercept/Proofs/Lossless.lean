/-
This file proves that a trace in JSON loses nothing. Each line is free of control characters, so
the newlines of a trace are the ends of its lines. A line shows where each of its parts ends: a
string ends at the first quote that no backslash stands before, a number at the first character
that is no digit, a list and an object at their brackets. So whatever follows them, two parts that
read the same are the same. The name of its kind and the fields that are there then tell an event
from every other one, and the bytes of a trace tell which events were traced.
-/
import Intercept.CommandLine.Commands
import Intercept.Proofs.Numerals
import Intercept.Script.Session
import Mathlib.Data.List.Basic

namespace Intercept

/-! ### Lines of a text -/

/-- Lines without a separator are what a text of them is cut into; nothing follows the last one. -/
theorem Text.cut_lines {separator : Char} {lines : List (List Char)}
    (whole : ∀ line ∈ lines, separator ∉ line) :
    cut separator (lines.flatMap (· ++ [separator])) = lines ++ [[]] := by
  induction lines with
  | nil => rfl
  | cons line rest inductionHypothesis =>
    have ends := inductionHypothesis fun other isOther =>
      whole other (List.mem_cons_of_mem _ isOther)
    rw [List.flatMap_cons, List.append_assoc, List.singleton_append, cut_append_cons,
      cut_of_not_mem (whole line List.mem_cons_self), ends, List.singleton_append,
      List.cons_append]

namespace Json

/-! ### Strings -/

/-- The character that a backslash and a mark stand for. -/
def unmark (mark : Char) : Char :=
  match mark with
  | 'b' => '\x08'
  | 'f' => '\x0c'
  | 'n' => '\n'
  | 'r' => '\r'
  | 't' => '\t'
  | other => other

/-- The three forms in which characters stand in strings. -/
theorem escape_cases (char : Char) :
    (escape char = [char] ∧ ' ' ≤ char ∧ char ≠ '"' ∧ char ≠ '\\') ∨
    (∃ mark, escape char = ['\\', mark] ∧ ' ' ≤ mark ∧ mark ≠ 'u' ∧ unmark mark = char) ∨
    (escape char = '\\' :: 'u' :: Text.padZeros 4 (Text.hexDigits char.toNat) ∧ char < ' ') := by
  unfold escape
  split_ifs with quote backslash backspace feed newline carriage tab control
  · exact .inr (.inl ⟨'"', rfl, by decide, by decide, quote.symm⟩)
  · exact .inr (.inl ⟨'\\', rfl, by decide, by decide, backslash.symm⟩)
  · exact .inr (.inl ⟨'b', rfl, by decide, by decide, backspace.symm⟩)
  · exact .inr (.inl ⟨'f', rfl, by decide, by decide, feed.symm⟩)
  · exact .inr (.inl ⟨'n', rfl, by decide, by decide, newline.symm⟩)
  · exact .inr (.inl ⟨'r', rfl, by decide, by decide, carriage.symm⟩)
  · exact .inr (.inl ⟨'t', rfl, by decide, by decide, tab.symm⟩)
  · exact .inr (.inr ⟨rfl, control⟩)
  · exact .inl ⟨rfl, Char.not_lt.mp control, quote, backslash⟩

/-- Reads the first character of a string back, with what follows it. -/
def unescape? : List Char → Option (Char × List Char)
  | '\\' :: 'u' :: rest => some (Char.ofNat (Text.number 16 (rest.take 4)), rest.drop 4)
  | '\\' :: mark :: rest => some (unmark mark, rest)
  | char :: rest => some (char, rest)
  | [] => none

theorem length_hexDigits_control {char : Char} (control : char < ' ') :
    (Text.hexDigits char.toNat).length ≤ 4 := by
  refine (Nat.length_toDigits_le_iff (by decide) (by decide)).mpr ?_
  exact Nat.lt_trans (show char.toNat < 32 from control) (by decide)

theorem unescape?_escape (char : Char) (rest : List Char) :
    unescape? (escape char ++ rest) = some (char, rest) := by
  rcases escape_cases char with
    ⟨written, -, -, noBackslash⟩ | ⟨mark, written, -, noCode, rfl⟩ | ⟨written, control⟩ <;>
    rw [written]
  · simp [unescape?, noBackslash]
  · simp [unescape?]
  · have length := Text.length_padZeros (length_hexDigits_control control)
    rw [List.cons_append, List.cons_append, unescape?, List.take_left' length,
      List.drop_left' length, Text.number_padZeros (by decide) (by decide), Text.number_hexDigits,
      Char.ofNat_toNat]

/-- No character of a string begins as the quote at its end does. -/
theorem escape_ne_quote (char : Char) (before after : List Char) :
    '"' :: before ≠ escape char ++ after := by
  rcases escape_cases char with
    ⟨written, -, noQuote, -⟩ | ⟨mark, written, -⟩ | ⟨written, -⟩ <;> rw [written]
  · exact fun same => noQuote (List.cons.inj same).1.symm
  · exact fun same => absurd (List.cons.inj same).1 (by decide)
  · exact fun same => absurd (List.cons.inj same).1 (by decide)

/-- A string shows where it ends. -/
theorem quoted_append_inj {first second rest restOther : List Char}
    (same : quoted first ++ rest = quoted second ++ restOther) :
    first = second ∧ rest = restOther := by
  replace same :
      first.flatMap escape ++ '"' :: rest = second.flatMap escape ++ '"' :: restOther := by
    simpa only [quoted, List.cons_append, List.append_assoc, List.nil_append, List.cons.injEq,
      true_and] using same
  induction first generalizing second with
  | nil =>
    cases second with
    | nil => exact ⟨rfl, (List.cons.inj same).2⟩
    | cons char second =>
      rw [List.flatMap_cons, List.append_assoc] at same
      exact absurd same (escape_ne_quote char _ _)
  | cons char first inductionHypothesis =>
    cases second with
    | nil =>
      rw [List.flatMap_cons, List.append_assoc] at same
      exact absurd same.symm (escape_ne_quote char _ _)
    | cons other second =>
      rw [List.flatMap_cons, List.flatMap_cons, List.append_assoc, List.append_assoc] at same
      have reads := congrArg unescape? same
      rw [unescape?_escape, unescape?_escape, Option.some.injEq, Prod.mk.injEq] at reads
      obtain ⟨rfl, sameRest⟩ := reads
      obtain ⟨rfl, rfl⟩ := inductionHypothesis sameRest
      exact ⟨rfl, rfl⟩

/-! ### Numbers -/

theorem signedDigits_append_inj {first second : Int} {last lastOther : Char}
    {rest restOther : List Char} (ends : Text.isNumeral last = false)
    (endsOther : Text.isNumeral lastOther = false)
    (same : Text.signedDigits first ++ last :: rest =
      Text.signedDigits second ++ lastOther :: restOther) :
    first = second ∧ last :: rest = lastOther :: restOther := by
  have digits {value : Int} {char : Char} {after : List Char} (ends : Text.isNumeral char = false) :
      (Text.signedDigits value ++ char :: after).takeWhile Text.isNumeral =
        Text.signedDigits value := by
    rw [List.takeWhile_append_of_pos fun _ => Text.isNumeral_of_mem_signedDigits,
      List.takeWhile_cons_of_neg (by simp [ends]), List.append_nil]
  have sameDigits := congrArg (List.takeWhile Text.isNumeral) same
  rw [digits ends, digits endsOther] at sameDigits
  obtain rfl := Text.signedDigits_injective sameDigits
  exact ⟨rfl, List.append_cancel_left same⟩

/-- A number does not begin as anything else does. -/
theorem cons_ne_signedDigits {char : Char} (other : Text.isNumeral char = false) (value : Int)
    (before after : List Char) : char :: before ≠ Text.signedDigits value ++ after := by
  intro same
  cases written : Text.signedDigits value with
  | nil => exact Text.signedDigits_ne_nil value written
  | cons digit digits =>
    rw [written] at same
    have isNumeral := Text.isNumeral_of_mem_signedDigits (written ▸ List.mem_cons_self)
    rw [← (List.cons.inj same).1, other] at isNumeral
    cases isNumeral

/-! ### Sequences -/

/-- That what is written shows where it ends, if a comma or a closing bracket follows. -/
def ShowsEnd {Part : Type} (close : Char) (write : Part → List Char) : Prop :=
  ∀ {first second : Part} {last lastOther : Char} {rest restOther : List Char},
    last = ',' ∨ last = close → lastOther = ',' ∨ lastOther = close →
      write first ++ last :: rest = write second ++ lastOther :: restOther →
        first = second ∧ last :: rest = lastOther :: restOther

/-- A sequence of parts that show where they end shows where it ends itself. -/
theorem commaSeparated_append_inj {Part : Type} {close : Char} {write : Part → List Char}
    (shows : ShowsEnd close write) (differs : close ≠ ',')
    (opens : ∀ part before after, close :: before ≠ write part ++ after)
    {first second : List Part} {rest restOther : List Char}
    (same : commaSeparated (first.map write) ++ close :: rest =
      commaSeparated (second.map write) ++ close :: restOther) :
    first = second ∧ rest = restOther := by
  -- Behind the first part stands the bracket, or a comma and then the others.
  have unfolds (part : Part) (parts : List Part) (after : List Char) :
      commaSeparated ((part :: parts).map write) ++ close :: after =
        write part ++ if parts = [] then close :: after
          else ',' :: (commaSeparated (parts.map write) ++ close :: after) := by
    cases parts with
    | nil => rfl
    | cons next parts => simp [commaSeparated]
  induction first generalizing second with
  | nil =>
    cases second with
    | nil => exact ⟨rfl, (List.cons.inj same).2⟩
    | cons other second => exact absurd (same.trans (unfolds ..)) (opens other _ _)
  | cons part first inductionHypothesis =>
    cases second with
    | nil => exact absurd (same.symm.trans (unfolds ..)) (opens part _ _)
    | cons other second =>
      rw [unfolds, unfolds] at same
      split_ifs at same with last lastOther lastOther
      · obtain ⟨rfl, sameRest⟩ := shows (.inr rfl) (.inr rfl) same
        exact ⟨by rw [last, lastOther], (List.cons.inj sameRest).2⟩
      · exact absurd (List.cons.inj (shows (.inr rfl) (.inl rfl) same).2).1 differs
      · exact absurd (List.cons.inj (shows (.inl rfl) (.inr rfl) same).2).1.symm differs
      · obtain ⟨rfl, sameRest⟩ := shows (.inl rfl) (.inl rfl) same
        obtain ⟨rfl, rfl⟩ := inductionHypothesis (List.cons.inj sameRest).2
        exact ⟨rfl, rfl⟩

theorem quoted_showsEnd (close : Char) :
    ShowsEnd close fun text : String => quoted text.toList := by
  intro first second last lastOther rest restOther _ _ same
  obtain ⟨sameText, sameRest⟩ := quoted_append_inj same
  exact ⟨String.toList_inj.mp sameText, sameRest⟩

/-! ### Objects -/

theorem Item.render_showsEnd : ShowsEnd '}' Item.render := by
  intro first second last lastOther rest restOther ends endsOther same
  have noNumeral {char : Char} (ends : char = ',' ∨ char = '}') : Text.isNumeral char = false := by
    rcases ends with rfl | rfl <;> decide
  cases first with
  | text first =>
    cases second with
    | text second =>
      obtain ⟨rfl, sameRest⟩ := quoted_showsEnd '}' ends endsOther same
      exact ⟨rfl, sameRest⟩
    | texts second => exact absurd (List.cons.inj same).1 (by decide)
    | number second => exact absurd same (cons_ne_signedDigits (by decide) second _ _)
  | texts first =>
    cases second with
    | text second => exact absurd (List.cons.inj same).1 (by decide)
    | texts second =>
      simp only [Item.render, List.cons_append, List.append_assoc, List.nil_append, List.cons.injEq,
        true_and] at same
      obtain ⟨rfl, sameRest⟩ := commaSeparated_append_inj (quoted_showsEnd ']') (by decide)
        (fun _ _ _ begins => absurd (List.cons.inj begins).1 (by decide)) same
      exact ⟨rfl, sameRest⟩
    | number second => exact absurd same (cons_ne_signedDigits (by decide) second _ _)
  | number first =>
    cases second with
    | text second => exact absurd same.symm (cons_ne_signedDigits (by decide) first _ _)
    | texts second => exact absurd same.symm (cons_ne_signedDigits (by decide) first _ _)
    | number second =>
      obtain ⟨rfl, sameRest⟩ :=
        signedDigits_append_inj (noNumeral ends) (noNumeral endsOther) same
      exact ⟨rfl, sameRest⟩

theorem renderField_showsEnd : ShowsEnd '}' renderField := by
  rintro ⟨name, item⟩ ⟨nameOther, itemOther⟩ last lastOther rest restOther ends endsOther same
  simp only [renderField, List.append_assoc, List.cons_append] at same
  obtain ⟨sameName, sameItem⟩ := quoted_append_inj same
  obtain ⟨rfl, sameRest⟩ := Item.render_showsEnd ends endsOther (List.cons.inj sameItem).2
  exact ⟨Prod.ext (String.toList_inj.mp sameName) rfl, sameRest⟩

/-- Objects that read the same have the same fields. -/
theorem renderObject_injective : Function.Injective renderObject := fun _ _ same =>
  (commaSeparated_append_inj renderField_showsEnd (by decide)
    (fun _ _ _ begins => absurd (List.cons.inj begins).1 (by decide)) (List.cons.inj same).2).1

/-! ### Events -/

/-- An optional field tells whether something is there, and what it is. -/
theorem optionalField_inj {Part : Type} {item : Part → Item} (injective : Function.Injective item)
    {name : String} {first second : Option Part} :
    optionalField name (first.map item) = optionalField name (second.map item) ↔
      first = second := by
  cases first <;> cases second <;> simp [optionalField, injective.eq_iff]

/-- An event is told by the name of its kind and the fields that it has. -/
theorem fields_injective : Function.Injective fields := by
  have texts : Function.Injective Item.texts := fun _ _ => Item.texts.inj
  have text : Function.Injective Item.text := fun _ _ => Item.text.inj
  intro first second same
  -- Events of two kinds have two names in the first field.
  cases first <;> cases second <;>
    simp [fields, optionalField_inj texts, optionalField_inj text, UInt64.toNat_inj,
      Int64.toInt_inj] at same
  all_goals simp [same]

/-- Lines that read the same stand for the same event. -/
theorem line_injective : Function.Injective line := fun _ _ same =>
  fields_injective (renderObject_injective (String.ofList_injective same))

/-! ### Lines of a trace -/

/-- That a text is free of control characters. -/
def Printable (text : List Char) : Prop :=
  ∀ char ∈ text, ' ' ≤ char

theorem printable_cons {char : Char} {text : List Char} :
    Printable (char :: text) ↔ ' ' ≤ char ∧ Printable text :=
  List.forall_mem_cons

theorem printable_append {first second : List Char} :
    Printable (first ++ second) ↔ Printable first ∧ Printable second :=
  List.forall_mem_append

theorem printable_enclosed {opening closing : Char} {text : List Char} (opens : ' ' ≤ opening)
    (inside : Printable text) (closes : ' ' ≤ closing) : Printable (opening :: text ++ [closing]) :=
  printable_cons.mpr
    ⟨opens, printable_append.mpr ⟨inside, List.forall_mem_singleton.mpr closes⟩⟩

theorem printable_toDigits {base : Nat} (proper : 1 < base) (small : base ≤ 16) (value : Nat) :
    Printable (Nat.toDigits base value) := by
  intro char isDigit
  obtain ⟨digit, within, rfl⟩ := Text.exists_digit_of_mem_toDigits proper isDigit
  have bounded := Nat.lt_of_lt_of_le within small
  interval_cases digit <;> decide

theorem printable_padZeros (width : Nat) {digits : List Char} (printable : Printable digits) :
    Printable (Text.padZeros width digits) :=
  printable_append.mpr ⟨fun _ isZero => List.eq_of_mem_replicate isZero ▸ by decide, printable⟩

theorem printable_escape (char : Char) : Printable (escape char) := by
  rcases escape_cases char with
    ⟨form, printable, -⟩ | ⟨mark, form, printable, -⟩ | ⟨form, -⟩ <;> rw [form]
  · exact List.forall_mem_singleton.mpr printable
  · exact printable_cons.mpr ⟨by decide, List.forall_mem_singleton.mpr printable⟩
  · have digits : Printable (Text.hexDigits char.toNat) :=
      printable_toDigits (by decide) (by decide) char.toNat
    exact printable_cons.mpr
      ⟨by decide, printable_cons.mpr ⟨by decide, printable_padZeros 4 digits⟩⟩

theorem printable_quoted (text : List Char) : Printable (quoted text) := by
  have inside : Printable (text.flatMap escape) := by
    intro char isInside
    obtain ⟨original, -, isWritten⟩ := List.mem_flatMap.mp isInside
    exact printable_escape original char isWritten
  exact printable_enclosed (by decide) inside (by decide)

theorem printable_commaSeparated {Part : Type} {write : Part → List Char}
    (each : ∀ part, Printable (write part)) (parts : List Part) :
    Printable (commaSeparated (parts.map write)) := by
  induction parts with
  | nil => exact List.forall_mem_nil _
  | cons part parts inductionHypothesis =>
    cases parts with
    | nil => exact each part
    | cons next parts =>
      exact printable_append.mpr
        ⟨each part, printable_cons.mpr ⟨by decide, inductionHypothesis⟩⟩

theorem printable_signedDigits (value : Int) : Printable (Text.signedDigits value) := by
  cases value with
  | ofNat value => exact printable_toDigits (by decide) (by decide) value
  | negSucc value =>
    exact printable_cons.mpr ⟨by decide, printable_toDigits (by decide) (by decide) (value + 1)⟩

theorem Item.printable_render : (item : Item) → Printable item.render
  | .text value => printable_quoted value.toList
  | .texts values =>
    printable_enclosed (by decide)
      (printable_commaSeparated (fun value : String => printable_quoted value.toList) values)
      (by decide)
  | .number value => printable_signedDigits value

theorem printable_renderObject (fields : List Field) : Printable (renderObject fields) := by
  have each (field : Field) : Printable (renderField field) :=
    printable_append.mpr
      ⟨printable_quoted _, printable_cons.mpr ⟨by decide, field.2.printable_render⟩⟩
  exact printable_enclosed (by decide) (printable_commaSeparated each fields) (by decide)

theorem printable_line (event : Event) : Printable (line event).toList := by
  rw [line, String.toList_ofList]
  exact printable_renderObject _

end Json

/-! ### Bytes of a trace -/

open CommandLine (linesText)

theorem toList_linesText (lines : List String) :
    (linesText lines).toList = (lines.map String.toList).flatMap (· ++ ['\n']) := by
  rw [linesText, String.toList_join, List.flatMap_map, List.flatMap_map]
  simp only [String.toList_append, String.reduceToList]

/-- The newlines of a trace are the ends of its lines. -/
theorem cut_linesText_jsonLines (events : List Event) :
    Text.cut '\n' (linesText (events.map LineFormat.json.line)).toList =
      events.map (fun event => (LineFormat.json.line event).toList) ++ [[]] := by
  rw [toList_linesText, Text.cut_lines, List.map_map]
  · rfl
  · intro line isLine
    obtain ⟨text, isText, rfl⟩ := List.mem_map.mp isLine
    obtain ⟨event, -, rfl⟩ := List.mem_map.mp isText
    exact fun isBreak => absurd (Json.printable_line event _ isBreak) (by decide)

/-- The bytes that a trace is written as in a format. -/
def LineFormat.stream (format : LineFormat) (events : List Event) : ByteArray :=
  (linesText (events.map format.line)).toUTF8

theorem stream_json_injective : Function.Injective LineFormat.json.stream := by
  intro first second same
  have sameText : linesText (first.map LineFormat.json.line) =
      linesText (second.map LineFormat.json.line) := String.toByteArray_inj.mp same
  have sameLines := cut_linesText_jsonLines first
  rw [sameText, cut_linesText_jsonLines second] at sameLines
  refine ((List.map_inj_right ?_).mp (List.append_cancel_right sameLines)).symm
  exact fun _ _ same => Json.line_injective (String.toList_inj.mp same)

/-- What was emitted is written out as the trace of its events. -/
theorem stream_emissions (format : LineFormat) (sink : Sink) :
    (linesText (sink.lines format)).toUTF8 =
      format.stream (sink.emissions.map Emission.event) := by
  rw [LineFormat.stream, List.map_map]
  rfl

/-- The bytes of the trace lines of a step. -/
def Script.Record.stream (record : Record) : ByteArray :=
  (linesText record.lines).toUTF8

/-- What a step does to the process has nothing to do with the format of trace lines. -/
theorem perform_world (format other : LineFormat) (fuel : Nat) (world : World)
    (runtime : RuntimeId) (step : Script.Step) :
    (Script.perform fuel format world runtime step).2 =
      (Script.perform fuel other world runtime step).2 := by
  cases step <;> rfl

/-- If the lines of one format can be told from those of another, then so it is in a session. -/
theorem stream_performAll {format other : LineFormat} {retell : ByteArray → ByteArray}
    (retells : ∀ events, format.stream events = retell (other.stream events)) (fuel : Nat)
    (world : World) (steps : List (RuntimeId × Script.Step)) :
    (Script.performAll fuel format world steps).map Script.Record.stream =
      (Script.performAll fuel other world steps).map (retell ∘ Script.Record.stream) := by
  induction steps generalizing world with
  | nil => rfl
  | cons step rest inductionHypothesis =>
    obtain ⟨runtime, step⟩ := step
    simp only [Script.performAll, List.map_cons, Function.comp_apply, Script.Record.stream]
    rw [perform_world format other, inductionHypothesis, stream_emissions, stream_emissions,
      retells]

/-- A trace in JSON loses nothing. No line has a control character in it, so newlines stand at the
ends of lines and nowhere else. The bytes of the trace tell all its events, in their order. So what
a run would have written as text can be told from what it wrote as JSON, step by step. -/
theorem json_trace_is_lossless :
    (∀ event : Event, ∀ char ∈ (LineFormat.json.line event).toList, ' ' ≤ char) ∧
    (∀ events : List Event, Text.cut '\n' (linesText (events.map LineFormat.json.line)).toList =
      events.map (fun event => (LineFormat.json.line event).toList) ++ [[]]) ∧
    (∀ first second : List Event,
      LineFormat.json.stream first = LineFormat.json.stream second → first = second) ∧
    ∃ retell : ByteArray → ByteArray,
      (∀ sink : Sink,
        (linesText (sink.lines .text)).toUTF8 = retell (linesText (sink.lines .json)).toUTF8) ∧
      ∀ fuel world steps, (Script.performAll fuel .text world steps).map Script.Record.stream =
        (Script.performAll fuel .json world steps).map (retell ∘ Script.Record.stream) := by
  obtain ⟨retell, factors⟩ := (Function.factorsThrough_iff LineFormat.text.stream).mp
    (stream_json_injective.factorsThrough LineFormat.text.stream)
  have retells : ∀ events, LineFormat.text.stream events = retell (LineFormat.json.stream events) :=
    congrFun factors
  refine ⟨Json.printable_line, cut_linesText_jsonLines, fun _ _ => @stream_json_injective _ _,
    retell, fun sink => ?_, fun fuel world steps => stream_performAll retells fuel world steps⟩
  rw [stream_emissions, stream_emissions, retells]

end Intercept
