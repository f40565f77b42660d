import Mathlib.Data.List.TakeDrop
import Mathlib.Data.List.TakeWhile
import TelemetryRelay.Delivery
import TelemetryRelay.Proofs.QueryPairs
import TelemetryRelay.Proofs.Separators

/-!
The URL of a database. What is put behind a base is put behind its text, so it is the last segment
of the path only where the base names a host and has neither query nor fragment; the database is
the last pair of the query wherever it stands.
-/

namespace TelemetryRelay

namespace Url

theorem dropWhile_append_cons {α : Type} {keeps : α → Bool} {stop : α} (ends : keeps stop = false)
    (front rest : List α) :
    (front ++ stop :: rest).dropWhile keeps = front.dropWhile keeps ++ stop :: rest := by
  induction front with
  | nil => simp [ends]
  | cons item front ih => cases kept : keeps item <;> simp [kept, ih]

theorem takeWhile_append_cons {α : Type} {keeps : α → Bool} {stop : α} (ends : keeps stop = false)
    (front rest : List α) :
    (front ++ stop :: rest).takeWhile keeps = front.takeWhile keeps := by
  induction front with
  | nil => simp [ends]
  | cons item front ih => cases kept : keeps item <;> simp [kept, ih]

structure Plain (segment : List Char) : Prop where
  written : Percent.encode Percent.keepsPath segment = segment
  level : dots segment = .none
  whole : ∀ char ∈ segment, isSlash char = false ∧ char ≠ '?' ∧ char ≠ '#'
  visible : ∀ char ∈ segment, 0x20 < char.toNat

theorem plain_nil : Plain [] where
  written := rfl
  level := rfl
  whole := by simp
  visible := by simp

theorem plain_write : Plain "write".toList where
  written := by decide +kernel
  level := by decide +kernel
  whole := by simp [isSlash]
  visible := by simp

def isOuter (char : Char) : Bool := char.toNat ≤ 0x20

def isLineEnd (char : Char) : Bool := char == '\t' || char == '\n' || char == '\r'

theorem isLineEnd_of_visible {char : Char} (visible : 0x20 < char.toNat) :
    isLineEnd char = false := by
  unfold isLineEnd
  simp only [Bool.or_eq_false_iff, beq_eq_false_iff_ne]
  refine ⟨⟨?_, ?_⟩, ?_⟩ <;> rintro rfl <;> exact absurd visible (by decide)

/-- What is read of a base where more text stands behind it. -/
def cleanBase (base : List Char) : List Char :=
  (base.dropWhile isOuter).filter fun char => !isLineEnd char

theorem clean_append_slash (base : List Char) {segment : List Char} (plain : Plain segment) :
    clean (base ++ '/' :: segment) = cleanBase base ++ '/' :: segment := by
  have last (front : List Char) :
      (front ++ '/' :: segment).reverse.dropWhile isOuter = (front ++ '/' :: segment).reverse := by
    rw [List.reverse_append, List.reverse_cons]
    cases backwards : segment.reverse with
    | nil => rfl
    | cons char rest =>
        have member : char ∈ segment := List.mem_reverse.mp (backwards ▸ List.mem_cons_self)
        have visible : isOuter char = false :=
          decide_eq_false (Nat.not_le.mpr (plain.visible char member))
        simp [visible]
  have kept : ('/' :: segment).filter (fun char => !isLineEnd char) = '/' :: segment := by
    rw [List.filter_eq_self, List.forall_mem_cons]
    refine ⟨rfl, fun char member => ?_⟩
    rw [isLineEnd_of_visible (plain.visible char member)]
    rfl
  calc
    clean (base ++ '/' :: segment) =
        (((base ++ '/' :: segment).dropWhile isOuter).reverse.dropWhile isOuter).reverse.filter
          fun char => !isLineEnd char := rfl
    _ = (base.dropWhile isOuter ++ '/' :: segment).filter fun char => !isLineEnd char := by
      rw [dropWhile_append_cons (by decide), last, List.reverse_reverse]
    _ = cleanBase base ++ '/' :: segment := by
      rw [List.filter_append, kept, cleanBase]

theorem scheme?_append_slash (text segment : List Char) :
    scheme? (text ++ '/' :: segment) =
      (scheme? text).map fun (scheme, rest) => (scheme, rest ++ '/' :: segment) := by
  have ends : isSchemeChar '/' = false := by decide
  simp only [scheme?, List.span_eq_takeWhile_dropWhile, takeWhile_append_cons ends,
    dropWhile_append_cons ends]
  cases text.takeWhile isSchemeChar with
  | nil => simp
  | cons first others =>
      cases text.dropWhile isSchemeChar with
      | nil => simp
      | cons mark rest =>
          by_cases colon : mark = ':'
          · subst colon
            by_cases letter : first.isAlpha = true <;> simp [letter]
          · simp [colon]

/-- What is read of a text below a base: the part of the base behind its scheme is the same
whatever the text. -/
theorem read_below (base : String) {segment : List Char} (plain : Plain segment) {url : Url}
    (accepted : read (base ++ "/" ++ String.ofList segment) = .ok url) :
    ∃ scheme rest, readWeb scheme (rest ++ '/' :: segment) = .ok url ∧
      ∀ {other : List Char}, Plain other →
        read (base ++ "/" ++ String.ofList other) = readWeb scheme (rest ++ '/' :: other) := by
  have cleaned {other : List Char} (plain : Plain other) :
      scheme? (clean (base ++ "/" ++ String.ofList other).toList) =
        (scheme? (cleanBase base.toList)).map fun (scheme, rest) =>
          (scheme, rest ++ '/' :: other) := by
    rw [← scheme?_append_slash, ← clean_append_slash _ plain]
    simp
  unfold read at accepted
  rw [cleaned plain] at accepted
  cases found : scheme? (cleanBase base.toList) with
  | none =>
      rw [found] at accepted
      cases accepted
  | some parts =>
      obtain ⟨name, rest⟩ := parts
      rw [found] at accepted
      simp only [Option.map_some] at accepted
      split at accepted
      · rename_i http
        refine ⟨.http, rest, accepted, fun plain => ?_⟩
        simp only [read, cleaned plain, found, Option.map_some, if_pos http]
      · rename_i notHttp
        split at accepted
        · rename_i https
          refine ⟨.https, rest, accepted, fun plain => ?_⟩
          simp only [read, cleaned plain, found, Option.map_some, if_neg notHttp, if_pos https]
        · cases checked : checkOther name (rest ++ '/' :: segment) with
          | error fault =>
              rw [checked] at accepted
              cases accepted
          | ok nothing =>
              rw [checked] at accepted
              cases accepted

def staysInside (char : Char) : Bool := !endsAuthority true char

theorem authority_append_slash (readHost : List Char → Except Fault (List Char))
    (text segment : List Char) :
    authority true readHost (text ++ '/' :: segment) =
      (authority true readHost (text ++ ['/'])).map fun (userInfo, host, port, _) =>
        (userInfo, host, port, text.dropWhile staysInside ++ '/' :: segment) := by
  have spanned (tail : List Char) :
      (text ++ '/' :: tail).span (fun char => !endsAuthority true char) =
        (text.takeWhile staysInside, text.dropWhile staysInside ++ '/' :: tail) := by
    have ends : staysInside '/' = false := rfl
    rw [← takeWhile_append_cons ends text tail, ← dropWhile_append_cons ends text tail]
    exact List.span_eq_takeWhile_dropWhile _ _
  have nonempty (tail : List Char) :
      (text.dropWhile staysInside ++ '/' :: tail).isEmpty = false := by
    simp
  unfold authority
  simp only [spanned, nonempty]
  generalize cutUserInfo (text.takeWhile staysInside) = cut
  generalize (cut.getD ([], text.takeWhile staysInside)).2 = place
  split
  · rfl
  · cases readHost (cutHost false place).1 with
    | error fault => rfl
    | ok host =>
        cases readPort (cutHost false place).2 with
        | error fault => rfl
        | ok port => rfl

def isMark (char : Char) : Bool := char == '?' || char == '#'

def completed (scheme : Scheme) (userInfo host : List Char) (port : Option Nat)
    (rest : List Char) : Url where
  scheme
  userInfo
  host
  port := port.filter (· ≠ scheme.defaultPort)
  path := readPath (rest.takeWhile fun char => !isMark char)
  query := (queryAndFragment (rest.dropWhile fun char => !isMark char)).1
  fragment := (queryAndFragment (rest.dropWhile fun char => !isMark char)).2

theorem readWeb_eq (scheme : Scheme) (text : List Char) :
    readWeb scheme text =
      (authority true Host.read (text.dropWhile isSlash)).map fun (userInfo, host, port, rest) =>
        completed scheme userInfo host port rest := by
  simp only [readWeb, List.span_eq_takeWhile_dropWhile]
  cases authority true Host.read (text.dropWhile isSlash) <;> rfl

theorem readWeb_append_slash (scheme : Scheme) {text : List Char}
    (named : text.dropWhile isSlash ≠ []) (segment : List Char) :
    readWeb scheme (text ++ '/' :: segment) =
      (authority true Host.read (text.dropWhile isSlash ++ ['/'])).map
        fun (userInfo, host, port, _) =>
          completed scheme userInfo host port
            ((text.dropWhile isSlash).dropWhile staysInside ++ '/' :: segment) := by
  have start : (text ++ '/' :: segment).dropWhile isSlash =
      text.dropWhile isSlash ++ '/' :: segment := by
    rw [List.dropWhile_append, if_neg (by simpa using named)]
  rw [readWeb_eq, start, authority_append_slash]
  cases authority true Host.read (text.dropWhile isSlash ++ ['/']) <;> rfl

theorem readWeb_of_slashes (scheme : Scheme) {text : List Char}
    (slashes : text.dropWhile isSlash = []) {segment : List Char} (plain : Plain segment) :
    readWeb scheme (text ++ '/' :: segment) =
      (authority true Host.read segment).map fun (userInfo, host, port, rest) =>
        completed scheme userInfo host port rest := by
  have start : (text ++ '/' :: segment).dropWhile isSlash = segment := by
    rw [List.dropWhile_append, slashes]
    have slash : isSlash '/' = true := rfl
    simp only [List.isEmpty_nil, if_true, List.dropWhile_cons, slash]
    cases segment with
    | nil => rfl
    | cons char rest => simp [(plain.whole char List.mem_cons_self).1]
  rw [readWeb_eq, start]

def enter (taken : List (List Char)) (segment : List Char) : List (List Char) :=
  match dots segment with
  | .one => taken
  | .two => shorten taken
  | .none => segment :: taken

theorem resolve_cons (taken : List (List Char)) (segment : List Char) {rest : List (List Char)}
    (more : rest ≠ []) :
    resolve taken (segment :: rest) = resolve (enter taken segment) rest := by
  cases rest with
  | nil => exact absurd rfl more
  | cons next others => cases level : dots segment <;> simp [resolve, enter, level]

theorem resolve_append (taken segments : List (List Char)) :
    ∃ front, ∀ {last : List Char}, dots last = .none →
      resolve taken (segments ++ [last]) = front ++ [last] := by
  induction segments generalizing taken with
  | nil =>
      refine ⟨taken.reverse, fun level => ?_⟩
      simp [resolve, level]
  | cons segment rest ih =>
      obtain ⟨front, resolved⟩ := ih (enter taken segment)
      refine ⟨front, fun {last} level => ?_⟩
      rw [List.cons_append, resolve_cons taken segment (by simp), resolved level]

theorem readPath_append_slash (text : List Char) :
    ∃ front, ∀ {segment : List Char}, Plain segment →
      readPath (text ++ '/' :: segment) = front ++ [segment] := by
  have behind (inner : List Char) : ∃ front, ∀ {segment : List Char}, Plain segment →
      resolve [] (((inner ++ '/' :: segment).splitOnP isSlash).map
        (Percent.encode Percent.keepsPath)) = front ++ [segment] := by
    obtain ⟨front, resolved⟩ :=
      resolve_append [] ((inner.splitOnP isSlash).map (Percent.encode Percent.keepsPath))
    refine ⟨front, fun {segment} plain => ?_⟩
    have whole : segment.splitOnP isSlash = [segment] :=
      List.splitOnP_eq_singleton fun char member => (plain.whole char member).1
    rw [List.splitOnP_append_cons inner segment (by decide), whole, List.map_append,
      List.map_singleton, plain.written, resolved plain.level]
  unfold readPath
  cases text with
  | nil =>
      refine ⟨[], fun {segment} plain => ?_⟩
      have whole : segment.splitOnP isSlash = [segment] :=
        List.splitOnP_eq_singleton fun char member => (plain.whole char member).1
      simp [whole, plain.written, resolve, plain.level]
  | cons char rest =>
      by_cases slash : char = '/' ∨ char = '\\'
      · obtain ⟨front, resolved⟩ := behind rest
        refine ⟨front, fun plain => ?_⟩
        rw [← resolved plain]
        rcases slash with rfl | rfl <;> rfl
      · obtain ⟨front, resolved⟩ := behind (char :: rest)
        refine ⟨front, fun plain => ?_⟩
        rw [← resolved plain, List.cons_append]
        split
        · rename_i same
          exact (slash (.inl (List.cons.inj same).1)).elim
        · rename_i same
          exact (slash (.inr (List.cons.inj same).1)).elim
        · rfl

theorem queryAndFragment_of_mark {mark : Char} (marked : isMark mark = true) {text : List Char}
    (whole : (queryAndFragment (mark :: text)).2 = none) :
    (queryAndFragment (mark :: text)).1 = some (Percent.encode Percent.keepsQuery text) := by
  by_cases hash : mark = '#'
  · subst hash
    simp [queryAndFragment, List.span_eq_takeWhile_dropWhile] at whole
  · obtain rfl : mark = '?' := by simpa [isMark, hash] using marked
    have question : decide ('?' ≠ '#') = true := by decide
    simp only [queryAndFragment, List.span_eq_takeWhile_dropWhile, List.dropWhile_cons,
      List.takeWhile_cons, question, if_true] at whole ⊢
    have none : text.dropWhile (· ≠ '#') = [] := by
      cases left : text.dropWhile (· ≠ '#') with
      | nil => rfl
      | cons char rest =>
          have first := List.head?_dropWhile_not (· ≠ '#') text
          rw [left] at first whole
          obtain rfl : char = '#' := by simpa using first
          cases whole
    have all : text.takeWhile (· ≠ '#') = text :=
      List.takeWhile_eq_self_iff.mpr (List.dropWhile_eq_nil_iff.mp none)
    simp only [all]

section

variable (scheme : Scheme) (userInfo host : List Char) (port : Option Nat)

theorem completed_of_unmarked {text : List Char} (unmarked : text.find? isMark = none) :
    ∃ front, ∀ {segment : List Char}, Plain segment →
      completed scheme userInfo host port (text ++ '/' :: segment) =
        ⟨scheme, userInfo, host, port.filter (· ≠ scheme.defaultPort), front ++ [segment], none,
          none⟩ := by
  obtain ⟨front, path⟩ := readPath_append_slash text
  refine ⟨front, fun {segment} plain => ?_⟩
  have inside : ∀ char ∈ text ++ '/' :: segment, (!isMark char) = true := by
    intro char member
    rcases List.mem_append.mp member with before | after
    · simpa using List.find?_eq_none.mp unmarked char before
    · rcases List.mem_cons.mp after with rfl | within
      · rfl
      · obtain ⟨-, noQuestion, noHash⟩ := plain.whole char within
        simp [isMark, noQuestion, noHash]
  rw [completed, List.takeWhile_eq_self_iff.mpr inside, List.dropWhile_eq_nil_iff.mpr inside,
    path plain]
  rfl

theorem completed_of_marked {text : List Char} {mark : Char}
    (marked : text.find? isMark = some mark) (segment : List Char)
    (whole : (completed scheme userInfo host port (text ++ '/' :: segment)).fragment = none) :
    ∃ before, (completed scheme userInfo host port (text ++ '/' :: segment)).query =
      some (Percent.encode Percent.keepsQuery (before ++ '/' :: segment)) := by
  obtain ⟨isIt, front, back, rfl, unmarked⟩ := List.find?_eq_some_iff_append.mp marked
  have rest : ((front ++ mark :: back) ++ '/' :: segment).dropWhile (fun char => !isMark char) =
      mark :: (back ++ '/' :: segment) := by
    have none : front.dropWhile (fun char => !isMark char) = [] :=
      List.dropWhile_eq_nil_iff.mpr unmarked
    rw [List.append_assoc, List.dropWhile_append, none]
    simp [isIt]
  simp only [completed, rest] at whole ⊢
  exact ⟨back, queryAndFragment_of_mark isIt whole⟩

end

theorem readWeb_directory {scheme : Scheme} {text : List Char} {place : Url}
    (accepted : readWeb scheme (text ++ ['/']) = .ok place) : text.dropWhile isSlash ≠ [] := by
  intro slashes
  rw [readWeb_of_slashes scheme slashes plain_nil] at accepted
  cases accepted

/-- The text below a base with host, without query and fragment: every plain segment is the last
one of a path that is otherwise the same. -/
theorem readWeb_segment {scheme : Scheme} {text : List Char} {place : Url}
    (directory : readWeb scheme (text ++ ['/']) = .ok place) (noQuery : place.query = none)
    (noFragment : place.fragment = none) {segment : List Char} (plain : Plain segment) :
    readWeb scheme (text ++ '/' :: segment) =
      .ok { place with path := place.path.dropLast ++ [segment] } := by
  have named := readWeb_directory directory
  rw [readWeb_append_slash scheme named] at directory ⊢
  cases outcome : authority true Host.read (text.dropWhile isSlash ++ ['/']) with
  | error fault =>
      rw [outcome] at directory
      cases directory
  | ok parts =>
      obtain ⟨userInfo, host, port, rest⟩ := parts
      rw [outcome] at directory
      obtain rfl := Except.ok.inj directory
      cases marked : ((text.dropWhile isSlash).dropWhile staysInside).find? isMark with
      | some mark =>
          obtain ⟨before, query⟩ :=
            completed_of_marked scheme userInfo host port marked [] noFragment
          cases noQuery.symm.trans query
      | none =>
          obtain ⟨front, written⟩ := completed_of_unmarked scheme userInfo host port marked
          simp [Except.map, written plain, written plain_nil]

theorem pairs_ne_nil {query : List Char} {char : Char} (member : char ∈ query)
    (other : char ≠ '&') : Form.pairs query ≠ [] := by
  intro empty
  rw [Form.pairs, List.map_eq_nil_iff, List.filter_eq_nil_iff] at empty
  have joined : ['&'].intercalate (query.splitOn '&') = query := List.intercalate_splitOn '&'
  rw [← joined, mem_intercalate_iff (by simpa using other)] at member
  obtain ⟨piece, belongs, inside⟩ := member
  have nothing : piece = [] := by simpa using empty piece belongs
  rw [nothing] at inside
  cases inside

theorem pairs_append_ne {before : List Char} {key value : String} :
    Form.pairs (Form.append (some (Percent.encode Percent.keepsQuery
      (before ++ '/' :: "write".toList))) key value) ≠ [(key, value)] := by
  intro single
  have kept : Percent.keepsQuery 'w' = true := by decide
  have written : 'w' ∈ Percent.encode Percent.keepsQuery (before ++ '/' :: "write".toList) := by
    refine List.mem_flatMap.mpr ⟨'w', by simp, ?_⟩
    rw [if_pos kept]
    exact List.mem_singleton.mpr rfl
  rw [Form.pairs_append] at single
  exact pairs_ne_nil written (by decide) (by simpa using single)

theorem directory_of_segment {scheme : Scheme} {text : List Char} {url : Url} {key value : String}
    (accepted : readWeb scheme (text ++ '/' :: "write".toList) = .ok url)
    (last : url.path.getLast? = some "write".toList) (noFragment : url.fragment = none)
    (single : Form.pairs (Form.append url.query key value) = [(key, value)]) :
    ∃ place, readWeb scheme (text ++ ['/']) = .ok place ∧ place.query = none ∧
      place.fragment = none := by
  by_cases slashes : text.dropWhile isSlash = []
  · have host : authority true Host.read "write".toList =
        .ok ([], "write".toList, none, []) := by decide +kernel
    rw [readWeb_of_slashes scheme slashes plain_write, host] at accepted
    obtain rfl := Except.ok.inj accepted
    have path : (completed scheme [] "write".toList none []).path = [[]] := rfl
    rw [path] at last
    cases last
  · rw [readWeb_append_slash scheme slashes] at accepted ⊢
    cases outcome : authority true Host.read (text.dropWhile isSlash ++ ['/']) with
    | error fault =>
        rw [outcome] at accepted
        cases accepted
    | ok parts =>
        obtain ⟨userInfo, host, port, rest⟩ := parts
        rw [outcome] at accepted
        obtain rfl := Except.ok.inj accepted
        cases marked : ((text.dropWhile isSlash).dropWhile staysInside).find? isMark with
        | some mark =>
            obtain ⟨before, query⟩ :=
              completed_of_marked scheme userInfo host port marked _ noFragment
            rw [query] at single
            exact (pairs_append_ne single).elim
        | none =>
            obtain ⟨front, written⟩ := completed_of_unmarked scheme userInfo host port marked
            exact ⟨_, rfl, congrArg Url.query (written plain_nil),
              congrArg Url.fragment (written plain_nil)⟩

end Url

theorem databaseUrl_eq_ok_iff {base database : String} {url : Url} :
    databaseUrl base database = .ok url ↔
      ∃ place, Url.read (dropTrailingSlashes base ++ "/write") = .ok place ∧
        place.appendPair "db" database = url := by
  unfold databaseUrl
  cases Url.read (dropTrailingSlashes base ++ "/write") <;> simp

theorem Url.pairs_appendPair (url : Url) (key value : String) :
    ∃ query, (url.appendPair key value).query = some query ∧
      Form.pairs query = Form.pairs (url.query.getD []) ++ [(key, value)] :=
  ⟨_, rfl, Form.pairs_append _ _ _⟩

theorem read_write_below {base : String} {url : Url}
    (accepted : Url.read (base ++ "/write") = .ok url) :
    ∃ scheme rest, Url.readWeb scheme (rest ++ '/' :: "write".toList) = .ok url ∧
      Url.read (base ++ "/") = Url.readWeb scheme (rest ++ ['/']) := by
  have segment : base ++ "/write" = base ++ "/" ++ String.ofList "write".toList := by
    rw [String.append_assoc]
    rfl
  have nothing : base ++ "/" = base ++ "/" ++ String.ofList [] := String.append_empty.symm
  rw [segment] at accepted
  obtain ⟨scheme, rest, web, below⟩ := Url.read_below base Url.plain_write accepted
  exact ⟨scheme, rest, web, nothing ▸ below Url.plain_nil⟩

/-- The URL of a database has the database as the last pair of its query. It is `write` below the
base, with no other pair and no fragment, exactly if the base as a directory is a URL without query
and fragment; and then nothing else of the base is changed. -/
theorem write_below_base_iff {base database : String} {url : Url}
    (accepted : databaseUrl base database = .ok url) :
    (url.scheme.name = "http" ∨ url.scheme.name = "https") ∧
      (∃ query, url.query = some query ∧
        (Url.Form.pairs query).getLast? = some ("db", database)) ∧
      ((url.path.getLast? = some "write".toList ∧ url.fragment = none ∧
          ∃ query, url.query = some query ∧ Url.Form.pairs query = [("db", database)]) ↔
        ∃ place, Url.read (dropTrailingSlashes base ++ "/") = .ok place ∧
          place.query = none ∧ place.fragment = none) ∧
      ∀ place, Url.read (dropTrailingSlashes base ++ "/") = .ok place →
        place.query = none → place.fragment = none →
        url = { place with
          path := place.path.dropLast ++ ["write".toList]
          query := some ("db=".toList ++ Url.Form.encode database) } := by
  obtain ⟨written, read, rfl⟩ := databaseUrl_eq_ok_iff.mp accepted
  obtain ⟨scheme, rest, web, below⟩ := read_write_below read
  obtain ⟨query, appended, pairs⟩ := written.pairs_appendPair "db" database
  have unchanged (place : Url)
      (directory : Url.read (dropTrailingSlashes base ++ "/") = .ok place)
      (noQuery : place.query = none) (noFragment : place.fragment = none) :
      written = { place with path := place.path.dropLast ++ ["write".toList] } := by
    rw [below] at directory
    have same := web.symm.trans
      (Url.readWeb_segment directory noQuery noFragment Url.plain_write)
    exact Except.ok.inj same
  refine ⟨?_, ⟨query, appended, ?_⟩, ⟨?_, ?_⟩, ?_⟩
  · cases (written.appendPair "db" database).scheme with
    | http => exact .inl rfl
    | https => exact .inr rfl
  · rw [pairs, List.getLast?_concat]
  · rintro ⟨last, noFragment, other, same, single⟩
    rw [below]
    cases appended.symm.trans same
    exact Url.directory_of_segment web last noFragment (Option.some.inj appended ▸ single)
  · rintro ⟨place, directory, noQuery, noFragment⟩
    have same := unchanged place directory noQuery noFragment
    refine ⟨?_, ?_, query, appended, ?_⟩
    · rw [same]
      exact List.getLast?_concat
    · rw [same]
      exact noFragment
    · rw [pairs, same]
      simp [noQuery, Url.Form.pairs]
  · intro place directory noQuery noFragment
    rw [unchanged place directory noQuery noFragment, Url.appendPair, noQuery]
    rfl

theorem write_below_base_iff_lenient :
    let base := "https://u:p@Influx.example.com:443/a/../db//"
    let url : Url := {
      scheme := .https
      userInfo := "u:p@".toList
      host := "influx.example.com".toList
      port := none
      path := ["db".toList, "write".toList]
      query := some "db=cf+metrics%26x%3D1".toList
      fragment := none
    }
    let place : Url := { url with path := ["db".toList, []], query := none }
    databaseUrl base "cf metrics&x=1" = .ok url ∧
      Url.read (dropTrailingSlashes base ++ "/") = .ok place ∧
      Url.Form.pairs "db=cf+metrics%26x%3D1".toList = [("db", "cf metrics&x=1")] ∧
      url = { place with
        path := place.path.dropLast ++ ["write".toList]
        query := some ("db=".toList ++ Url.Form.encode "cf metrics&x=1") } := by
  intro base url place
  have accepted : databaseUrl base "cf metrics&x=1" = .ok url := by decide +kernel
  have directory : Url.read (dropTrailingSlashes base ++ "/") = .ok place := by decide +kernel
  obtain ⟨-, -, documented, unchanged⟩ := write_below_base_iff accepted
  obtain ⟨-, -, query, same, single⟩ := documented.mpr ⟨place, directory, rfl, rfl⟩
  cases same
  exact ⟨accepted, directory, single, unchanged place directory rfl rfl⟩

/-- A query or a fragment of the base takes in what was meant to be the path, and so does the host
of a base that has none. -/
theorem write_elsewhere :
    let posted (base : String) := (databaseUrl base "metrics").toOption.map fun url =>
      (url.text, url.query.map Url.Form.pairs)
    posted "http://localhost:8086/?epoch=s" =
        some ("http://localhost:8086/?epoch=s/write&db=metrics",
          some [("epoch", "s/write"), ("db", "metrics")]) ∧
      posted "http://localhost:8086/#top" =
        some ("http://localhost:8086/?db=metrics#top/write", some [("db", "metrics")]) ∧
      posted "http://" = some ("http://write/?db=metrics", some [("db", "metrics")]) := by
  intro posted
  decide +kernel

theorem Url.target_inj {url : Url} {query other : List Char}
    (same : target { url with query := some query } = target { url with query := some other }) :
    query = other := by
  have written := List.append_cancel_left (String.ofList_inj.mp same)
  exact (List.cons.inj written).2

theorem Url.text_inj {url : Url} {query other : List Char}
    (same : text { url with query := some query } = text { url with query := some other }) :
    query = other := by
  have targets := (String.append_left_inj _).mp same
  exact target_inj ((String.append_right_inj _).mp targets)

/-- No database reaches beyond its pair. Whether a base is accepted does not depend on the
database, and all URLs of a base are the same but for the last pair of their queries, which says
exactly the database; so no two databases have one URL, nor are they posted to one target. -/
theorem database_confined {base given : String} {url : Url}
    (accepted : databaseUrl base given = .ok url) :
    ∃ others : List (String × String), ∀ database, ∃ query,
      databaseUrl base database = .ok { url with query := some query } ∧
        Url.Form.pairs query = others ++ [("db", database)] ∧
        ∀ rival other, databaseUrl base rival = .ok other →
          other.text = Url.text { url with query := some query } ∨
            other.target = Url.target { url with query := some query } →
          rival = database := by
  obtain ⟨place, read, rfl⟩ := databaseUrl_eq_ok_iff.mp accepted
  have written (database : String) :
      databaseUrl base database = .ok (place.appendPair "db" database) :=
    databaseUrl_eq_ok_iff.mpr ⟨place, read, rfl⟩
  refine ⟨Url.Form.pairs (place.query.getD []), fun database => ?_⟩
  refine ⟨_, written database, Url.Form.pairs_append _ _ _, ?_⟩
  intro rival other found same
  cases (written rival).symm.trans found
  apply Url.Form.append_inj
  rcases same with text | target
  · exact Url.text_inj text
  · exact Url.target_inj target

theorem database_confined_beside_others :
    let base := "http://h?x=1&y#f"
    let url : Url := {
      scheme := .http
      userInfo := []
      host := ['h']
      port := none
      path := [[]]
      query := some "x=1&y&db=".toList
      fragment := some "f/write".toList
    }
    let query := "x=1&y&db=a%26db%3Db%23%25+%2B".toList
    databaseUrl base "" = .ok url ∧
      databaseUrl base "a&db=b#% +" = .ok { url with query := some query } ∧
      Url.Form.pairs query = [("x", "1"), ("y", ""), ("db", "a&db=b#% +")] := by
  intro base url query
  have accepted : databaseUrl base "" = .ok url := by decide +kernel
  obtain ⟨others, confined⟩ := database_confined accepted
  obtain ⟨empty, found, pairs, -⟩ := confined ""
  have same : empty = "x=1&y&db=".toList := by
    have equal := Except.ok.inj (found.symm.trans accepted)
    exact Option.some.inj (congrArg Url.query equal)
  have before : others = [("x", "1"), ("y", "")] := by
    have read : Url.Form.pairs "x=1&y&db=".toList = [("x", "1"), ("y", "")] ++ [("db", "")] := by
      decide +kernel
    rw [same, read] at pairs
    exact (List.append_cancel_right pairs).symm
  obtain ⟨written, reached, last, -⟩ := confined "a&db=b#% +"
  have expected : databaseUrl base "a&db=b#% +" = .ok { url with query := some query } := by
    decide +kernel
  have equal : written = query := by
    have urls := Except.ok.inj (reached.symm.trans expected)
    exact Option.some.inj (congrArg Url.query urls)
  rw [equal, before] at last
  exact ⟨accepted, expected, last⟩

end TelemetryRelay
