import Mathlib.Data.List.Basic
import Mathlib.Data.List.TakeDrop
import Mathlib.Data.List.TakeWhile

/-!
# String operations of the Python standard library

`str.split`, `str.replace`, `str.lstrip`, `os.path.join`, the `path` of `urllib.parse.urlparse` and
the acceptance test of `base64.b64decode`, on the characters of a string. `str.upper` is not here:
its Unicode tables are not embedded, and the model takes it as a parameter.
-/

namespace PyString

/-- The value of an attribute that may be missing, `None` or a string, or a value of another type:
the outer `none` is a missing attribute, the inner one is `None`. -/
abbrev Attribute (α : Type := String) : Type := Option (Option α)

/-- A string that counts as true: `None` and the empty string do not. -/
def truthy (value : Option String) : Option String := value.filter (· ≠ "")

/-- A string that is not empty counts as true. -/
theorem truthy_some {string : String} (nonempty : string ≠ "") :
    truthy (some string) = some string := by
  simp [truthy, Option.filter, nonempty]

/-- `str.split` at a non-empty separator: `skip` characters of a separator are still to be passed
over and `field` holds the current field in reverse. -/
def splitFrom (separator : List Char) : Nat → List Char → List Char → List (List Char)
  | _, field, [] => [field.reverse]
  | skip + 1, field, _ :: rest => splitFrom separator skip field rest
  | 0, field, c :: rest =>
    if separator.isPrefixOf (c :: rest) then
      field.reverse :: splitFrom separator (separator.length - 1) [] rest
    else splitFrom separator 0 (c :: field) rest

/-- `string.split(separator)`. -/
def split (string separator : String) : List String :=
  (splitFrom separator.toList 0 [] string.toList).map String.ofList

/-- A split has a part. -/
theorem splitFrom_ne_nil {separator : List Char} (skip : Nat) (field chars : List Char) :
    splitFrom separator skip field chars ≠ [] := by
  induction chars generalizing skip field with
  | nil => simp [splitFrom]
  | cons c rest ih =>
    cases skip with
    | succ skip => exact ih skip field
    | zero =>
      rw [splitFrom]
      split
      · exact List.cons_ne_nil _ _
      · exact ih 0 (c :: field)

/-- Joining the fields gives back what was split. -/
theorem intercalate_splitFrom {separator : List Char} (nonempty : separator ≠ []) (skip : Nat)
    (field chars : List Char) :
    separator.intercalate (splitFrom separator skip field chars) =
      field.reverse ++ chars.drop skip := by
  induction chars generalizing skip field with
  | nil => simp [splitFrom]
  | cons c rest ih =>
    cases skip with
    | succ skip => exact ih skip field
    | zero =>
      rw [splitFrom]
      split
      · rename_i here
        obtain ⟨later, whole⟩ := List.isPrefixOf_iff_prefix.mp here
        rw [List.intercalate_cons_of_ne_nil (splitFrom_ne_nil _ _ _), ih]
        -- What is left of the separator is passed over.
        obtain ⟨first, others, rfl⟩ := List.exists_cons_of_ne_nil nonempty
        obtain ⟨rfl, tail⟩ := List.cons.inj whole
        simp [← tail]
      · rw [ih]
        simp

/-- A string that splits into two fields is those fields, joined. -/
theorem split_pair {string separator first second : String} (nonempty : separator ≠ "")
    (fields : split string separator = [first, second]) :
    first ++ separator ++ second = string := by
  unfold split at fields
  have some_char : separator.toList ≠ [] := by simpa using nonempty
  have joined := intercalate_splitFrom some_char 0 [] string.toList
  generalize splitFrom separator.toList 0 [] string.toList = parts at fields joined
  match parts with
  | [] | [_] | _ :: _ :: _ :: _ => simp at fields
  | [front, back] =>
    obtain ⟨rfl, rfl⟩ : String.ofList front = first ∧ String.ofList back = second := by
      simpa using fields
    apply String.toList_injective
    simpa [List.intercalate, List.intersperse] using joined

/-- Whether a part occurs at some place of a list of characters. -/
def occurs (part : List Char) : List Char → Bool
  | [] => part.isEmpty
  | c :: rest => part.isPrefixOf (c :: rest) || occurs part rest

/-- `part in string`. -/
def contains (string part : String) : Bool := occurs part.toList string.toList

/-- `string.replace(old, new)`, for an `old` that is not empty. -/
def replace (string old new : String) : String := new.intercalate (split string old)

/-- A word without the first character of the separator is passed over. -/
theorem splitFrom_free {first : Char} {others word : List Char} (free : first ∉ word)
    (field rest : List Char) :
    splitFrom (first :: others) 0 field (word ++ rest) =
      splitFrom (first :: others) 0 (word.reverse ++ field) rest := by
  induction word generalizing field with
  | nil => rfl
  | cons c word ih =>
    obtain ⟨apart, later⟩ : first ≠ c ∧ first ∉ word := by simpa using free
    have elsewhere : ¬ (first :: others).isPrefixOf (c :: (word ++ rest)) = true := by
      rw [List.isPrefixOf_iff_prefix]
      exact fun here => apart (List.cons_prefix_cons.mp here).1
    rw [List.cons_append, splitFrom, if_neg elsewhere, ih later, List.reverse_cons,
      List.append_assoc, List.singleton_append]

/-- The rest of a separator is passed over. -/
theorem splitFrom_skip {separator : List Char} (skipped field rest : List Char) :
    splitFrom separator skipped.length field (skipped ++ rest) =
      splitFrom separator 0 field rest := by
  induction skipped with
  | nil => rfl
  | cons c skipped ih => exact ih

/-- A field ends at a separator. -/
theorem splitFrom_here {first : Char} {others : List Char} (field rest : List Char) :
    splitFrom (first :: others) 0 field (first :: (others ++ rest)) =
      field.reverse :: splitFrom (first :: others) 0 [] rest := by
  have here : (first :: others).isPrefixOf (first :: (others ++ rest)) = true := by
    rw [List.isPrefixOf_iff_prefix]
    exact List.prefix_append (first :: others) rest
  rw [splitFrom, if_pos here]
  exact congrArg _ (splitFrom_skip others [] rest)

/-- The last field ends at a separator at the end. -/
theorem splitFrom_last {first : Char} {others : List Char} (field : List Char) :
    splitFrom (first :: others) 0 field (first :: others) =
      [field.reverse, []] := by
  have ended := @splitFrom_here first others field []
  rw [List.append_nil] at ended
  rw [ended]
  rfl

/-- A field goes on where only the first character of the separator stands. -/
theorem splitFrom_near {first : Char} {others rest : List Char} (field : List Char)
    (elsewhere : ¬ others <+: rest) :
    splitFrom (first :: others) 0 field (first :: rest) =
      splitFrom (first :: others) 0 (first :: field) rest := by
  have unmatched : ¬ (first :: others).isPrefixOf (first :: rest) = true := by
    rw [List.isPrefixOf_iff_prefix, List.cons_prefix_cons]
    exact fun here => elsewhere here.2
  rw [splitFrom, if_neg unmatched]

/-- A separator of one character ends a field wherever it occurs. -/
theorem splitFrom_length (separator : Char) (field chars : List Char) :
    (splitFrom [separator] 0 field chars).length = chars.count separator + 1 := by
  induction chars generalizing field with
  | nil => rfl
  | cons c rest ih =>
    by_cases same : c = separator
    · subst same
      have ended := @splitFrom_here c [] field rest
      rw [List.nil_append] at ended
      rw [ended, List.length_cons, ih, List.count_cons_self]
    · have free : separator ∉ [c] := by simpa using Ne.symm same
      have passed := @splitFrom_free separator [] [c] free field rest
      rw [List.singleton_append] at passed
      rw [passed, ih, List.count_cons_of_ne same]

/-- A word without a character stands before the first occurrence of it. -/
theorem prefix_of_append {stop : Char} {word front rest : List Char} (free : stop ∉ word)
    (here : word <+: front ++ stop :: rest) : word <+: front := by
  rcases List.prefix_or_prefix_of_prefix here (List.prefix_append front (stop :: rest)) with
    inside | beyond
  · exact inside
  · obtain ⟨more, rfl⟩ := beyond
    rw [List.prefix_append_right_inj] at here
    cases more with
    | nil => simp
    | cons c more =>
      obtain ⟨rfl, -⟩ := List.cons_prefix_cons.mp here
      simp at free

/-- `os.path.join(path, name)`, on POSIX. -/
def joinPath (path name : String) : String :=
  if name.toList.head? = some '/' then name
  else if path = "" ∨ path.toList.getLast? = some '/' then path ++ name
  else path ++ "/" ++ name

/-- `string.lstrip(chars)`: the characters form a set, not a prefix. -/
def lstrip (string chars : String) : String :=
  String.ofList (string.toList.dropWhile chars.toList.contains)

/-- The part of a list up to the first element of a set, and the rest from it on. -/
def breakAt (stops : List Char) (chars : List Char) : List Char × List Char :=
  chars.span fun c => !stops.contains c

/-- The part of a list before the first occurrence of a character. -/
def before (stop : Char) (chars : List Char) : List Char := (breakAt [stop] chars).1

/-- Schemes whose paths may carry `;` parameters (`urllib.parse.uses_params`, as of Python 3.5). -/
def usesParams : List String :=
  ["", "ftp", "hdl", "prospero", "http", "imap", "https", "shttp", "rtsp", "rtspu", "sip", "sips",
    "mms", "sftp", "tel"]

/-- Characters a scheme may hold. -/
def schemeChar (c : Char) : Bool := c.isAlphanum || c == '+' || c == '-' || c == '.'

/-- The scheme of a URL and what follows it. A colon followed by digits only is the port of a URL
without scheme, except after `http`. -/
def splitScheme (url : List Char) : String × List Char :=
  match breakAt [':'] url with
  | ([], _) => ("", url)
  | (_, []) => ("", url)
  | (scheme, _ :: rest) =>
    if scheme = "http".toList ∨
        (scheme.all schemeChar ∧ (rest.isEmpty ∨ rest.any fun c => !c.isDigit)) then
      (String.ofList (scheme.map Char.toLower), rest)
    else ("", url)

/-- Drop the network location; `none` is the `ValueError` for unmatched square brackets. -/
def dropNetloc : List Char → Option (List Char)
  | '/' :: '/' :: rest =>
    let (netloc, path) := breakAt ['/', '?', '#'] rest
    if netloc.contains '[' = netloc.contains ']' then some path else none
  | url => some url

/-- Drop the `;` parameters of the last path segment. -/
def dropParams (path : List Char) : List Char :=
  let segment := path.reverse.takeWhile (· ≠ '/')
  path.take (path.length - segment.length) ++ before ';' segment.reverse

/-- `urlparse(url).path`; `none` is a `ValueError`. -/
def urlPath (url : String) : Option String :=
  let (scheme, rest) := splitScheme url.toList
  (dropNetloc rest).map fun rest =>
    let path := before '?' (before '#' rest)
    String.ofList (if usesParams.contains scheme then dropParams path else path)

/-- What is left of a path once query, fragment and, for some schemes, parameters are dropped. -/
def pathReference (scheme path : List Char) : List Char :=
  let reference := before '?' (before '#' path)
  if usesParams.contains (String.ofList (scheme.map Char.toLower)) then dropParams reference
  else reference

/-- Characters without a stop are passed over. -/
theorem breakAt_append {stops word rest : List Char} {stop : Char} (free : ∀ c ∈ word, c ∉ stops)
    (stops_here : stop ∈ stops) :
    breakAt stops (word ++ stop :: rest) = (word, stop :: rest) := by
  have passed : ∀ c ∈ word, (!stops.contains c) = true := fun c member => by simp [free c member]
  rw [breakAt, List.span_eq_takeWhile_dropWhile, List.takeWhile_append_of_pos passed,
    List.dropWhile_append_of_pos passed]
  simp [stops_here]

/-- What precedes the first occurrence, when a word without one comes first. -/
theorem before_append {stop : Char} {word : List Char} (free : stop ∉ word) (rest : List Char) :
    before stop (word ++ rest) = word ++ before stop rest := by
  have passed : ∀ c ∈ word, (!List.contains [stop] c) = true := fun c member => by
    have apart : c ≠ stop := by
      rintro rfl
      exact free member
    simp [apart]
  simp only [before, breakAt, List.span_eq_takeWhile_dropWhile,
    List.takeWhile_append_of_pos passed]

/-- Parameters belong to the last segment. -/
theorem dropParams_append (word rest : List Char) :
    dropParams (word ++ '/' :: rest) = word ++ '/' :: dropParams rest := by
  have segment : (word ++ '/' :: rest).reverse.takeWhile (· ≠ '/') =
      rest.reverse.takeWhile (· ≠ '/') := by
    rw [List.reverse_append, List.reverse_cons, List.append_assoc, List.takeWhile_append]
    split
    · rename_i whole
      rw [(List.takeWhile_prefix (· ≠ '/')).eq_of_length whole]
      simp
    · rfl
  have short : (rest.reverse.takeWhile (· ≠ '/')).length ≤ rest.length := by
    simpa using (List.takeWhile_prefix (p := (· ≠ '/')) (l := rest.reverse)).length_le
  simp only [dropParams, segment]
  have kept : (word ++ '/' :: rest).length - (rest.reverse.takeWhile (· ≠ '/')).length =
      word.length + (1 + (rest.length - (rest.reverse.takeWhile (· ≠ '/')).length)) := by
    simp only [List.length_append, List.length_cons]
    omega
  rw [kept, List.take_length_add_append, Nat.add_comm 1, List.take_succ_cons]
  simp

/-- A segment in front of the last one is kept. -/
theorem pathReference_append {scheme word : List Char} (query : '?' ∉ word) (fragment : '#' ∉ word)
    (rest : List Char) :
    pathReference scheme (word ++ '/' :: rest) = word ++ '/' :: pathReference scheme rest := by
  have slash (stop : Char) (apart : stop ≠ '/') (tail : List Char) :
      before stop ('/' :: tail) = '/' :: before stop tail :=
    @before_append stop ['/'] (by simpa using apart) tail
  simp only [pathReference]
  rw [before_append fragment, slash '#' (by decide), before_append query, slash '?' (by decide)]
  split
  · exact dropParams_append _ _
  · rfl

/-- Without a stop all is kept. -/
theorem before_eq {stop : Char} {word : List Char} (free : stop ∉ word) : before stop word = word := by
  have kept := before_append free []
  rw [List.append_nil] at kept
  rw [kept]
  exact List.append_nil _

/-- A path without a semicolon has no parameters. -/
theorem dropParams_eq {path : List Char} (free : ';' ∉ path) : dropParams path = path := by
  have parts : path = (path.reverse.dropWhile (· ≠ '/')).reverse ++
      (path.reverse.takeWhile (· ≠ '/')).reverse := by
    rw [← List.reverse_append, List.takeWhile_append_dropWhile, List.reverse_reverse]
  have last : ';' ∉ (path.reverse.takeWhile (· ≠ '/')).reverse := fun member =>
    free (parts ▸ List.mem_append_right _ member)
  have cut (front rest : List Char) (whole : path = front ++ rest) :
      path.take (path.length - rest.length) = front := by
    rw [whole, List.length_append, Nat.add_sub_cancel, List.take_left' rfl]
  have taken := cut _ _ parts
  rw [List.length_reverse] at taken
  simp only [dropParams, before_eq last, taken]
  exact parts.symm

/-- A path without delimiters is kept. -/
theorem pathReference_eq {scheme path : List Char} (free : ∀ c ∈ path, c ∉ ['#', '?', ';']) :
    pathReference scheme path = path := by
  have absent (stop : Char) (delimiter : stop ∈ ['#', '?', ';']) : stop ∉ path := fun member =>
    free stop member delimiter
  simp only [pathReference, before_eq (absent '#' (by simp)), before_eq (absent '?' (by simp)),
    dropParams_eq (absent ';' (by simp)), ite_self]

/-- The path of a URL with a scheme and a host. -/
theorem urlPath_schemed {scheme host path : List Char} (nonempty : scheme ≠ [])
    (valid : ∀ c ∈ scheme, schemeChar c = true) (plain : ∀ c ∈ host, c ∉ ['/', '?', '#'])
    (balanced : host.contains '[' = host.contains ']') :
    urlPath (String.ofList (scheme ++ ':' :: '/' :: '/' :: (host ++ '/' :: path))) =
      some (String.ofList (pathReference scheme ('/' :: path))) := by
  have colon : ∀ c ∈ scheme, c ∉ [':'] := by
    intro c member wrong
    obtain rfl : c = ':' := by simpa using wrong
    exact absurd (valid _ member) (by decide)
  have split_off : splitScheme (scheme ++ ':' :: '/' :: '/' :: (host ++ '/' :: path)) =
      (String.ofList (scheme.map Char.toLower), '/' :: '/' :: (host ++ '/' :: path)) := by
    have accepted : scheme = "http".toList ∨ (scheme.all schemeChar = true ∧
        (('/' :: '/' :: (host ++ '/' :: path)).isEmpty = true ∨
          ('/' :: '/' :: (host ++ '/' :: path)).any (fun c => !c.isDigit) = true)) :=
      .inr ⟨List.all_eq_true.mpr valid, .inr rfl⟩
    obtain ⟨first, others, rfl⟩ := List.exists_cons_of_ne_nil nonempty
    rw [splitScheme, breakAt_append colon (by simp)]
    simp only [accepted, ↓reduceIte]
  have located : dropNetloc ('/' :: '/' :: (host ++ '/' :: path)) = some ('/' :: path) := by
    rw [dropNetloc, breakAt_append plain (by simp)]
    simp only [balanced, ↓reduceIte]
  rw [urlPath, String.toList_ofList, split_off]
  simp only [located, Option.map_some, pathReference]

/-- Stripping the characters of a set from the left passes over a word made of them. -/
theorem lstrip_append {chars : String} {word rest : List Char} (all : ∀ c ∈ word, c ∈ chars.toList) :
    lstrip (String.ofList (word ++ rest)) chars = lstrip (String.ofList rest) chars := by
  have stripped : ∀ c ∈ word, chars.toList.contains c = true := fun c member => by
    simp [all c member]
  simp only [lstrip, String.toList_ofList, List.dropWhile_append_of_pos stripped]

/-- A string whose first character is not in the set is kept. -/
theorem lstrip_eq {string chars : String} (head : ∀ c ∈ string.toList.head?, c ∉ chars.toList) :
    lstrip string chars = string := by
  have kept : string.toList.dropWhile chars.toList.contains = string.toList := by
    cases letters : string.toList with
    | nil => rfl
    | cons first rest =>
      have outside : first ∉ chars.toList := head first (by rw [letters]; rfl)
      exact List.dropWhile_cons_of_neg (by simpa using outside)
  rw [lstrip, kept, String.ofList_toList]

/-- A character of the base64 alphabet, padding excluded. -/
def base64Char (c : Char) : Bool := c.isAlphanum || c == '+' || c == '/'

/-- Whether the decoder accepts the rest of its input, `digits` digits into a group of four.
Characters outside the alphabet are passed over, and so is padding that comes too early. -/
def base64Accepts : Nat → List Char → Bool
  | digits, [] => digits == 0
  | digits, c :: rest =>
    if c == '=' then
      if digits < 2 ∨
          (digits = 2 ∧ (rest.find? fun c => base64Char c || c == '=') ≠ some '=') then
        base64Accepts digits rest
      else true
    else if base64Char c then base64Accepts ((digits + 1) % 4) rest
    else base64Accepts digits rest

/-- Whether `base64.b64decode` returns: the string is ASCII and correctly padded. -/
def b64decodes (string : String) : Bool :=
  string.toList.all (·.val < 128) && base64Accepts 0 string.toList

end PyString
