import Rehearsal.Machine.Tool
import Rehearsal.Machine.Tool.ByteSet
import Rehearsal.Machine.Tool.Options
import Rehearsal.Shell.Printing.Format

/-!
# Starting a program

What the words of a command line make of a program of the machine: `Tool.start?` gives the program
that they begin.
-/

namespace Rehearsal.Machine

open Shell (Text)

namespace Tool

/-- Go on with what a command line asks for, or say what is wrong with it. -/
def withRequest (name : String) (forms : List OptionForm) (args : List Text)
    (next : Request → Tool) : Tool :=
  match Request.read forms args with
  | .ok r => next r
  | .error what => misused name what

/-- Go on with the operands of a command line if there are any. -/
def withOperands (name : String) (r : Request) (next : List Text → Tool) : Tool :=
  if r.operands.isEmpty then misused name "missing operand" else next r.operands

/-- The inputs of a filter: its operands, or its standard input. -/
def inputsOf (operands : List Text) : List Text := if operands.isEmpty then [['-']] else operands

/-! ### Pauses -/

/-- A length of time with its unit, in nanoseconds, rounded up; `none` in it is for ever. -/
def readPause (t : Text) : Option (Option Nat) :=
  let l := Shell.Printing.Scalar.read .extended t
  let scale? : Option Nat := match l.rest with
    | [] | ['s'] => some 1
    | ['m'] => some 60
    | ['h'] => some 3600
    | ['d'] => some 86400
    | _ => none
  match if l.rest.length = t.length then none else scale? with
  | none => none
  | some scale =>
    match l.value with
    | .nan _ => none
    | .infinite negative => if negative then none else some none
    | .finite negative m e =>
      if negative && m != 0 then none
      else
        let (num, den) := Binary64.ratio m e
        some (some ((num * scale * 1000000000 + den - 1) / den))

def startSleep (name : String) (args : List Text) : Tool :=
  withRequest name [] args fun r => withOperands name r fun operands =>
    let wrong := operands.filter fun t => (readPause t).isNone
    if wrong.isEmpty then
      let total := operands.mapM fun t => (readPause t).join
      .pause (total.map fun ns => ns.foldl (· + ·) 0) (.finish 0)
    else
      let messages := wrong.map fun t => message name ("invalid time interval " ++ shown t)
      .write name 2 (messages.flatten ++
        Text.toBytes ("Try '" ++ name ++ " --help' for more information.\n").toList) (.finish 1)

/-! ### Parts of the input -/

/-- A count with an optional unit. -/
def readCount (t : Text) : Option Nat :=
  let ds := t.takeWhile Char.isDigit
  let unit? : Option Nat := match String.ofList (t.drop ds.length) with
    | "" => some 1
    | "b" => some 512
    | "K" | "k" | "KiB" => some 1024
    | "kB" | "KB" => some 1000
    | "M" | "m" | "MiB" => some (1024 * 1024)
    | "MB" => some (1000 * 1000)
    | "G" | "GiB" => some (1024 * 1024 * 1024)
    | _ => none
  if ds.isEmpty then none else unit?.map (· * Shell.Numeral.ofDigits 10 ds)

/-- What part of the input is wanted. -/
structure Portion where
  lines : Bool := true
  /-- A sign before the count. -/
  sign : Option Char := none
  count : Nat := 10

/-- A portion as it is given with an option. -/
def readPortion (lines : Bool) (t : Text) : Except String Portion :=
  let (sign, body) := match t with
    | '+' :: rest => (some '+', rest)
    | '-' :: rest => (some '-', rest)
    | _ => (none, t)
  match readCount body with
  | some count => .ok { lines, sign, count }
  | none =>
    .error ("invalid number of " ++ (if lines then "lines" else "bytes") ++ ": " ++ shown t)

/-- The first word of a command line may be a sign and a count. -/
def spellOut (signs : List Char) : List Text → List Text
  | (s :: c :: cs) :: ws =>
    if signs.contains s && c.isDigit then
      let ds := (c :: cs).takeWhile Char.isDigit
      let letter := if (cs.dropWhile Char.isDigit) = ['c'] then 'c' else 'n'
      let count := if s = '+' then '+' :: ds else ds
      ['-', letter] :: count :: ws
    else (s :: c :: cs) :: ws
  | ws => ws

def portionForms : List OptionForm := [
  ⟨'c', "bytes", true⟩, ⟨'n', "lines", true⟩, ⟨'q', "quiet", false⟩, ⟨'q', "silent", false⟩,
  ⟨'v', "verbose", false⟩, ⟨'z', "zero-terminated", false⟩]

/-- Start a program that writes a part of each of its inputs. -/
def startPortion (name : String) (signs : List Char) (args : List Text)
    (filter : Portion → Filter) : Tool :=
  withRequest name portionForms (spellOut signs args) fun r =>
    let sized := r.options.filter fun o => o.1 = 'c' || o.1 = 'n'
    match sized.mapM fun o => readPortion (o.1 = 'n') o.2 with
    | .error what => complain name what 1
    | .ok portions =>
      let inputs := inputsOf r.operands
      let asked := (r.options.filter fun o => o.1 = 'q' || o.1 = 'v').getLast?.map (·.1)
      let titled := asked = some 'v' || (asked.isNone && 1 < inputs.length)
      .flow { name, inputs, wording := .parts, filter := filter (portions.getLast?.getD {})
              titles := if titled then some false else none }

/-- What `head` does with its input. -/
def headFilter (p : Portion) : Filter :=
  if p.sign = some '-' then .summarize (.allBut p.lines p.count) true []
  else .head p.lines p.count p.count

/-- What `tail` does with its input. -/
def tailFilter (p : Portion) : Filter :=
  .summarize (.tail p.lines (p.sign = some '+') p.count) true []

/-! ### Numbers in a row -/

/-- The number of places after the point of a decimal; `none` if it is none. -/
def decimalPlaces? (t : Text) : Option Nat :=
  let (_, body) := Shell.Numeral.splitSign t
  match Shell.Printing.Scalar.readPlaces Char.isDigit body with
  | some (_, places, []) => some places
  | _ => none

/-- A decimal as a whole number of units of its last place. -/
def decimalUnits (places : Nat) (t : Text) : Int :=
  let (negative, body) := Shell.Numeral.splitSign t
  match Shell.Printing.Scalar.readPlaces Char.isDigit body with
  | some (ds, own, _) =>
    let n : Int := Shell.Numeral.ofDigits 10 ds * Nat.pow 10 (places - own)
    if negative then -n else n
  | none => 0

/-- A whole number of units of the last place as a decimal, with zeros in front up to a width. -/
def decimalText (places width : Nat) (n : Int) : Text :=
  let body := Shell.Printing.Scalar.withPoint false places (Nat.toDigits 10 n.natAbs)
  let sign := if n < 0 then ['-'] else []
  sign ++ List.replicate (width - sign.length - body.length) '0' ++ body

def seqForms : List OptionForm := [
  ⟨'s', "separator", true⟩, ⟨'w', "equal-width", false⟩, ⟨'f', "format", true⟩]

/-- Options end before the first negative number. -/
def guardNumbers : List Text → List Text
  | [] => []
  | w :: ws =>
    match w with
    | '-' :: c :: _ =>
      if c.isDigit || c = '.' then ['-', '-'] :: w :: ws
      else if w = ['-', 's'] || w = ['-', 'f'] then w :: ws.take 1 ++ guardNumbers (ws.drop 1)
      else w :: guardNumbers ws
    | _ => ['-', '-'] :: w :: ws
termination_by ws => ws.length

def startSeq (name : String) (args : List Text) : Tool :=
  withRequest name seqForms (guardNumbers args) fun r => withOperands name r fun operands =>
    match operands.find? (fun w => (decimalPlaces? w).isNone), operands with
    | some w, _ => misused name ("invalid floating point argument: " ++ shown w)
    | none, _ :: _ :: _ :: extra :: _ => misused name ("extra operand " ++ shown extra)
    | none, _ =>
      let places (w : Text) : Nat := (decimalPlaces? w).getD 0
      let (first, step, last) : Text × Text × Text := match operands with
        | [first, step, last] => (first, step, last)
        | [first, last] => (first, ['1'], last)
        | _ => (['1'], ['1'], operands.headD [])
      let shownPlaces := max (places first) (places step)
      let all := max shownPlaces (places last)
      let unit : Int := Nat.pow 10 (all - shownPlaces)
      let (a, d, b) := (decimalUnits all first, decimalUnits all step, decimalUnits all last)
      if d = 0 then misused name ("invalid Zero increment value: " ++ shown step)
      else
        let count := if d > 0 then ((b - a).fdiv d + 1).toNat else ((a - b).fdiv (-d) + 1).toNat
        let numbers := (List.range count).map fun (i : Nat) => (a + d * i) / unit
        let plain := numbers.map (decimalText shownPlaces 0)
        let widest := plain.foldl (fun n t => max n t.length) 0
        let items := match r.value? 'f' with
          | some format => numbers.map fun n =>
            let p := Shell.Printing.printf .program format [decimalText shownPlaces 0 n]
            p.output.flatMap fun
              | .text t => t
              | .complaint _ => []
          | none => if r.has 'w' then numbers.map (decimalText shownPlaces widest) else plain
        if items.isEmpty then .finish 0
        else print name (((r.value? 's').getD ['\n']).intercalate items ++ ['\n']) (.finish 0)

/-! ### Bytes in place of others -/

def trForms : List OptionForm := [
  ⟨'c', "complement", false⟩, ⟨'C', "", false⟩, ⟨'d', "delete", false⟩,
  ⟨'s', "squeeze-repeats", false⟩, ⟨'t', "truncate-set1", false⟩]

/-- The two ways in which letters of one case are replaced by those of the other. -/
def foldsCase (first second : List ByteSet.Item) : Bool :=
  match first, second with
  | [.named a _], [.named b _] =>
    (a == "lower".toList && b == "upper".toList) || (a == "upper".toList && b == "lower".toList)
  | _, _ => false

/-- Are there classes in a set other than those of the cases? -/
def hasClass (items : List ByteSet.Item) : Bool := items.any fun
  | .named name _ => name != "lower".toList && name != "upper".toList
  | _ => false

def startTr (name : String) (args : List Text) : Tool :=
  withRequest name trForms args fun r =>
    let complement := r.has 'c' || r.has 'C'
    let deletes := r.has 'd'
    let squeezes := r.has 's'
    let wantsTwo := deletes == squeezes
    let most := if deletes && !squeezes then 1 else 2
    let count := r.operands.length
    let afterFirst := "missing operand after " ++ shown (r.operands.getLast?.getD [])
    if count = 0 then misused name "missing operand"
    else if count = 1 && wantsTwo then
      misused name (afterFirst ++ if deletes
        then "\nTwo strings must be given when both deleting and squeezing repeats."
        else "\nTwo strings must be given when translating.")
    else if most < count then
      misused name ("extra operand " ++ shown (r.operands.getD most []) ++
        if count = 2 then "\nOnly one string may be given when deleting without squeezing repeats."
        else "")
    else match r.operands.mapM ByteSet.read with
      | .error what => complain name what 1
      | .ok sets =>
        let all : Bytes := (List.range 256).map Nat.toUInt8
        let items := sets.headD []
        let first := ByteSet.bytesOf 0 items
        let first := if complement then all.filter (!first.contains ·) else first
        let substitute (table : List (UInt8 × UInt8)) (deleted squeezed : Bytes) : Tool :=
          .flow { name, inputs := [['-']], filter := .substitute table deleted squeezed none }
        match deletes, sets[1]? with
        | true, second? => substitute [] first ((second?.map (ByteSet.bytesOf 0)).getD [])
        | false, none => substitute [] [] first
        | false, some items' =>
          let second := ByteSet.stretch first.length items'
          if second.isEmpty && !r.has 't' then
            complain name "when not truncating set1, string2 must be non-empty" 1
          else if hasClass items' && !complement then
            complain name ("when translating, the only character classes that may appear in\n" ++
              "string2 are 'upper' and 'lower'") 1
          else
            let second := if r.has 't' then ByteSet.bytesOf 0 items' else second
            substitute (first.zip second).reverse [] (if squeezes then second else [])

/-! ### Filters -/

/-- Start a filter on the operands of a command line. -/
def startFilter (name : String) (wording : Wording) (forms : List OptionForm)
    (args : List Text) (filter : Request → Filter) : Tool :=
  withRequest name forms args fun r =>
    .flow { name, wording, inputs := inputsOf r.operands, filter := filter r }

def catForms : List OptionForm := [
  ⟨'b', "number-nonblank", false⟩, ⟨'n', "number", false⟩, ⟨'s', "squeeze-blank", false⟩,
  ⟨'v', "show-nonprinting", false⟩, ⟨'E', "show-ends", false⟩, ⟨'T', "show-tabs", false⟩,
  ⟨'A', "show-all", false⟩, ⟨'e', "", false⟩, ⟨'t', "", false⟩, ⟨'u', "", false⟩]

/-- What is made visible, by the options of a command line. -/
def displayStyle (r : Request) : Display.Style :=
  let any (letters : String) : Bool := letters.toList.any r.has
  { numbers := any "nb", skipsEmpty := any "b", squeezes := any "s", marksEnds := any "AeE"
    marksTabs := any "AtT", marksOthers := any "Aetv" }

def startCat (name : String) (args : List Text) : Tool :=
  withRequest name catForms args fun r =>
    let style := displayStyle r
    .flow { name, inputs := inputsOf r.operands, inBlocks := false, guardsOutput := true
            filter := if style = {} then .copy else .display style {}
            lastWords := some "closing standard input" }

def startTee (name : String) (args : List Text) : Tool :=
  withRequest name [⟨'a', "append", false⟩, ⟨'i', "ignore-interrupts", false⟩] args fun r =>
    .duplicate (r.has 'a') r.operands
      { name, filter := .copy, inputs := [['-']], inBlocks := false }

def countForms : List OptionForm := [
  ⟨'c', "bytes", false⟩, ⟨'l', "lines", false⟩, ⟨'L', "max-line-length", false⟩,
  ⟨'m', "chars", false⟩, ⟨'w', "words", false⟩]

def startWc (name : String) (args : List Text) : Tool :=
  withRequest name countForms args fun r =>
    let plain := r.options.isEmpty
    let style : CountStyle := {
      lines := plain || r.has 'l'
      words := plain || r.has 'w'
      bytes := plain || r.has 'c' || r.has 'm'
      longest := r.has 'L' }
    .measure style { name, inputs := inputsOf r.operands, filter := .copy }

def sortForms : List OptionForm := [
  ⟨'b', "ignore-leading-blanks", false⟩, ⟨'f', "ignore-case", false⟩,
  ⟨'n', "numeric-sort", false⟩, ⟨'r', "reverse", false⟩, ⟨'s', "stable", false⟩,
  ⟨'u', "unique", false⟩]

def startSort (name : String) (args : List Text) : Tool :=
  match Request.read sortForms args with
  | .error what => misusedWith 2 name what
  | .ok r =>
    let style : SortStyle := {
      numeric := r.has 'n'
      reversed := r.has 'r'
      unique := r.has 'u'
      ignoresCase := r.has 'f'
      ignoresBlanks := r.has 'b' }
    .flow { name, wording := .sorting, inputs := inputsOf r.operands
            filter := .summarize (.sort style) false [] }

def mergeForms : List OptionForm := [
  ⟨'c', "count", false⟩, ⟨'d', "repeated", false⟩, ⟨'i', "ignore-case", false⟩,
  ⟨'u', "unique", false⟩]

def mergeFilter (r : Request) : Filter :=
  .summarize (.mergeLines {
    counted := r.has 'c'
    onlyRepeated := r.has 'd'
    onlySingle := r.has 'u'
    ignoresCase := r.has 'i' }) false []

def cutForms : List OptionForm := [
  ⟨'b', "bytes", true⟩, ⟨'c', "characters", true⟩, ⟨'d', "delimiter", true⟩,
  ⟨'f', "fields", true⟩, ⟨'n', "", false⟩, ⟨'s', "only-delimited", false⟩]

/-- The positions of a list: numbers and ranges between commas. -/
def readRanges (what : String) (t : Text) : Except String (List (Nat × Option Nat)) :=
  (Text.pieces ',' t).mapM fun piece =>
    let numbered := what ++ "s are numbered from 1"
    let invalid := "invalid " ++ (if what = "field" then "field value" else "byte/character position")
      ++ " " ++ shown piece
    match piece with
    | [] => .error numbered
    | _ =>
      let first := piece.takeWhile Char.isDigit
      let a := Shell.Numeral.ofDigits 10 first
      match piece.drop first.length with
      | [] => if a = 0 then .error numbered else .ok (a, some a)
      | '-' :: last =>
        if !last.all Char.isDigit then .error invalid
        else if first.isEmpty && last.isEmpty then .error "invalid range with no endpoint: -"
        else
          let b := Shell.Numeral.ofDigits 10 last
          let a := if first.isEmpty then 1 else a
          if a = 0 then .error numbered
          else if last.isEmpty then .ok (a, none)
          else if b < a then .error "invalid decreasing range"
          else .ok (a, some b)
      | _ => .error invalid

def startCut (name : String) (args : List Text) : Tool :=
  withRequest name cutForms args fun r =>
    let lists := r.options.filter fun o => "bcf".toList.contains o.1
    let separator := (r.value? 'd').getD ['\t']
    match lists with
    | [] => misused name "you must specify a list of bytes, characters, or fields"
    | [(letter, list)] =>
      let byField := letter = 'f'
      if 1 < separator.length then misused name "the delimiter must be a single character"
      else if !byField && (r.value? 'd').isSome then
        misused name "an input delimiter may be specified only when operating on fields"
      else if !byField && r.has 's' then
        misused name ("suppressing non-delimited lines makes sense\n\t" ++
          "only when operating on fields")
      else match readRanges (if byField then "field" else "byte/character position") list with
        | .error what => misused name what
        | .ok ranges =>
          let byte := (Text.toBytes separator).headD 0
          .flow { name, inputs := inputsOf r.operands
                  filter := .summarize (.cut {
                    ranges
                    separator := if byField then some byte else none
                    onlySeparated := r.has 's' }) true [] }
    | _ => misused name "only one list may be specified"

/-! ### Texts -/

def startPrintf (name : String) (args : List Text) : Tool :=
  match (match args with
    | ['-', '-'] :: rest => rest
    | rest => rest) with
  | [] => misused name "missing operand"
  | format :: args =>
    let p := Shell.Printing.printf .program format args
    p.output.foldr (fun o next => match o with
      | .text t => print name t next
      | .complaint what => .write name 2 (message name what) next) (.finish p.status)

/-- The part of a path after its last slash. -/
def baseName (t : Text) : Text :=
  let trimmed := (t.reverse.dropWhile (· == '/')).reverse
  if trimmed.isEmpty then t.take 1 else (trimmed.reverse.takeWhile (· != '/')).reverse

/-- The part of a path before its last slash. -/
def dirName (t : Text) : Text :=
  let trimmed := t.reverse.dropWhile (· == '/')
  if trimmed.isEmpty then (if t.isEmpty then ['.'] else ['/'])
  else
    let rest := trimmed.dropWhile (· != '/')
    if rest.isEmpty then ['.']
    else
      let dir := rest.dropWhile (· == '/')
      if dir.isEmpty then ['/'] else dir.reverse

/-- A base name without an ending, unless that is all of it. -/
def dropSuffix (ending : Option Text) (t : Text) : Text :=
  match ending with
  | some e => if e.isSuffixOf t && e.length < t.length then t.take (t.length - e.length) else t
  | none => t

def startBasename (name : String) (args : List Text) : Tool :=
  withRequest name [⟨'a', "multiple", false⟩, ⟨'s', "suffix", true⟩] args fun r =>
    withOperands name r fun operands =>
      let write (ending : Option Text) (paths : List Text) : Tool :=
        print name (paths.flatMap fun t => dropSuffix ending (baseName t) ++ ['\n']) (.finish 0)
      if r.has 'a' || r.has 's' then write (r.value? 's') operands
      else match operands with
        | _ :: _ :: extra :: _ => misused name ("extra operand " ++ shown extra)
        | _ => write operands[1]? (operands.take 1)

def startDirname (name : String) (args : List Text) : Tool :=
  withRequest name [] args fun r => withOperands name r fun operands =>
    print name (operands.flatMap fun t => dirName t ++ ['\n']) (.finish 0)

/-! ### Files -/

/-- Start a program that changes files. -/
def startChange (name : String) (forms : List OptionForm) (args : List Text)
    (change : Request → FileChange) : Tool :=
  withRequest name forms args fun r => withOperands name r fun operands =>
    .change name (change r) operands 0

def removeForms : List OptionForm := [
  ⟨'f', "force", false⟩, ⟨'r', "recursive", false⟩, ⟨'R', "", false⟩, ⟨'i', "", false⟩,
  ⟨'d', "dir", false⟩]

def startRm (name : String) (args : List Text) : Tool :=
  withRequest name removeForms args fun r =>
    if r.operands.isEmpty && r.has 'f' then .finish 0
    else withOperands name r fun operands =>
      .change name (.remove (r.has 'f') (r.has 'r' || r.has 'R')) operands 0

/-- What a mode says of the mark of files that can be run; `none` if it says nothing. -/
def readMode (t : Text) : Option (Option Bool) :=
  if t.all Shell.Numeral.isOctal && !t.isEmpty then
    let n := Shell.Numeral.ofDigits 8 t
    if 0o7777 < n then none else some (some (n % 8 % 2 = 1 || n / 8 % 2 = 1 || n / 64 % 2 = 1))
  else
    (Text.pieces ',' t).foldl (fun (acc : Option (Option Bool)) clause =>
      match acc, clause.dropWhile "ugoa".toList.contains with
      | some before, sign :: letters =>
        if !"+-=".toList.contains sign || !letters.all "rwxXst".toList.contains then none
        else if letters.contains 'x' then some (some (sign != '-'))
        else some (if sign = '=' then some false else before)
      | _, _ => none) (some none)

def startChmod (name : String) (args : List Text) : Tool :=
  let isMode (w : Text) : Bool := match w with
    | '-' :: c :: _ => "rwxXst".toList.contains c
    | _ => false
  let guarded := if args.head?.any isMode then ['-', '-'] :: args else args
  withRequest name [⟨'R', "recursive", false⟩, ⟨'f', "silent", false⟩] guarded fun r =>
    withOperands name r fun operands =>
      let mode := operands.headD []
      match readMode mode, operands.drop 1 with
      | _, [] => misused name ("missing operand after " ++ shown mode)
      | none, _ => misused name ("invalid mode: " ++ shown mode)
      | some runs, files => .change name (.mark runs) files 0

/-! ### All of them -/

/-- The names of these programs. -/
def names : List String := [
  "true", "false", "echo", "printf", "sleep", "cat", "tee", "head", "tail", "tr", "wc", "seq",
  "yes", "sort", "uniq", "cut", "rev", "tac", "test", "[", "touch", "mkdir", "rmdir", "rm", "chmod",
  "basename", "dirname"]

/-- The program that a command line starts, if it is one of these, with the name by which it was
called. -/
def start? (program name : String) (args : List Text) : Option Tool :=
  match program with
  | "true" => some (.finish 0)
  | "false" => some (.finish 1)
  | "echo" => some (print name (Shell.Printing.echo .program args) (.finish 0))
  | "printf" => some (startPrintf name args)
  | "sleep" => some (startSleep name args)
  | "cat" => some (startCat name args)
  | "tee" => some (startTee name args)
  | "head" => some (startPortion name ['-'] args headFilter)
  | "tail" => some (startPortion name ['-', '+'] args tailFilter)
  | "tr" => some (startTr name args)
  | "wc" => some (startWc name args)
  | "seq" => some (startSeq name args)
  | "yes" =>
    some (withRequest name [] args fun r =>
      let words := if r.operands.isEmpty then [['y']] else r.operands
      let line := [' '].intercalate words ++ ['\n']
      .endless name (List.replicate (4096 / line.length + 1) (Text.toBytes line)).flatten)
  | "sort" => some (startSort name args)
  | "uniq" => some (startFilter name .plain mergeForms args mergeFilter)
  | "cut" => some (startCut name args)
  | "rev" => some (startFilter name .turning [] args fun _ => .summarize .turnLines true [])
  | "tac" => some (startFilter name .backwards [] args fun _ => .summarize .reverseLines true [])
  | "test" => some (.condition name false args)
  | "[" => some (.condition name true args)
  | "touch" =>
    let forms : List OptionForm := [⟨'c', "no-create", false⟩, ⟨'a', "", false⟩, ⟨'m', "", false⟩]
    some (withRequest name forms args fun r =>
      if r.operands.isEmpty then misused name "missing file operand"
      else .change name (.touch !(r.has 'c')) r.operands 0)
  | "mkdir" =>
    let forms : List OptionForm := [⟨'p', "parents", false⟩, ⟨'m', "mode", true⟩]
    some (startChange name forms args fun r => .makeDir (r.has 'p'))
  | "rmdir" => some (startChange name [⟨'p', "parents", false⟩] args fun _ => .removeDir)
  | "rm" => some (startRm name args)
  | "chmod" => some (startChmod name args)
  | "basename" => some (startBasename name args)
  | "dirname" => some (startDirname name args)
  | _ => none

end Tool

end Rehearsal.Machine
