import HttpEngine.Outbound.Target
import Mathlib.Data.List.TakeWhile

/-!
The normal form of targets: a host with its port, and a path that begins with a slash. Every text
that names a target is brought into it, and a text that is in it already names just that target.
-/

namespace HttpEngine

/-- A character that is not in a list differs from all that are. -/
theorem bne_of_not_mem {c : Char} {list : List Char} (absent : c ∉ list) :
    ∀ other ∈ list, (other != c) = true := by
  intro other member
  rw [bne_iff_ne]
  rintro rfl
  exact absent member

/-- A list is cut in front of the first place where a character stands. -/
theorem cut_before_first {c : Char} {front : List Char} (absent : c ∉ front) (rest : List Char) :
    (front ++ c :: rest).takeWhile (· != c) = front ∧
      (front ++ c :: rest).dropWhile (· != c) = c :: rest := by
  -- The character itself is the first one that stops the cut.
  have before := bne_of_not_mem absent
  rw [List.takeWhile_append_of_pos before, List.dropWhile_append_of_pos before,
    List.takeWhile_cons_of_neg (by simp), List.dropWhile_cons_of_neg (by simp), List.append_nil]
  exact ⟨rfl, rfl⟩

/-- A text is cut at a colon exactly if none stands behind it. -/
theorem cutAtLastColon?_eq_some_iff {text front back : String} :
    cutAtLastColon? text = some (front, back) ↔
      text = front ++ ":" ++ back ∧ ':' ∉ back.toList := by
  have joined (front back : String) (absent : ':' ∉ back.toList) :
      cutAtLastColon? (front ++ ":" ++ back) = some (front, back) := by
    -- From its end the text is its back, the colon, and its front.
    have backwards : (front ++ ":" ++ back).toList.reverse =
        back.toList.reverse ++ ':' :: front.toList.reverse := by
      simp [String.toList_append]
    have ahead : ':' ∉ back.toList.reverse := by rwa [List.mem_reverse]
    obtain ⟨taken, dropped⟩ := cut_before_first ahead front.toList.reverse
    simp only [cutAtLastColon?, backwards, taken, dropped, List.reverse_reverse,
      String.ofList_toList]
  constructor
  · intro cut
    by_cases colon : ':' ∈ text.toList.reverse
    · -- The first colon from the end on is the last one.
      obtain ⟨last, others, split, unseen⟩ := List.eq_append_cons_of_mem colon
      have whole : text = String.ofList others.reverse ++ ":" ++ String.ofList last.reverse := by
        rw [← String.toList_inj, ← List.reverse_inj, split]
        simp [String.toList_append]
      have absent : ':' ∉ (String.ofList last.reverse).toList := by simpa using unseen
      rw [whole, joined _ _ absent] at cut
      cases cut
      exact ⟨whole, absent⟩
    · -- Without a colon nothing is cut.
      have uncut : text.toList.reverse.dropWhile (· != ':') = [] :=
        List.dropWhile_eq_nil_iff.2 (bne_of_not_mem colon)
      simp only [cutAtLastColon?, uncut] at cut
      cases cut
  · rintro ⟨rfl, absent⟩
    exact joined front back absent

namespace Target

variable {text host : String} {target : Target}

section Openings

/-- Behind its opening a text goes on. -/
@[simp] theorem after?_append (opening rest : String) :
    after? opening (opening ++ rest) = some rest := by
  have opens : opening.toList.isPrefixOf (opening ++ rest).toList = true := by
    rw [List.isPrefixOf_iff_prefix, String.toList_append]
    exact List.prefix_append _ _
  rw [after?, if_pos opens, String.toList_append, ← String.length_toList, List.drop_left,
    String.ofList_toList]

/-- A text that does not begin with an opening has nothing behind it. -/
theorem after?_eq_none {opening : String} (other : ∀ rest, text ≠ opening ++ rest) :
    after? opening text = none := by
  refine if_neg fun opens => ?_
  obtain ⟨rest, whole⟩ := List.isPrefixOf_iff_prefix.1 opens
  refine other (String.ofList rest) (String.toList_inj.1 ?_)
  rw [String.toList_append, String.toList_ofList, whole]

end Openings

section Slash

/-- A text without a slash is a host alone. -/
theorem cutAtSlash_of_not_mem (slashless : '/' ∉ text.toList) : cutAtSlash text = (text, "/") := by
  have all : text.toList.dropWhile (· != '/') = [] :=
    List.dropWhile_eq_nil_iff.2 (bne_of_not_mem slashless)
  simp only [cutAtSlash, all]

/-- The first slash begins the path. -/
theorem cutAtSlash_append (slashless : '/' ∉ host.toList) (rest : String) :
    cutAtSlash (host ++ ("/" ++ rest)) = (host, "/" ++ rest) := by
  have chars : (host ++ ("/" ++ rest)).toList = host.toList ++ '/' :: rest.toList := by
    simp [String.toList_append]
  -- The host is what stands in front of the first slash.
  obtain ⟨taken, dropped⟩ := cut_before_first slashless rest.toList
  simp only [cutAtSlash, chars, taken, dropped, String.ofList_toList]
  rw [Prod.mk.injEq]
  refine ⟨rfl, String.toList_inj.1 ?_⟩
  simp [String.toList_append]

/-- A text is a host alone, or a host and a path. -/
theorem cutAtSlash_cases (text : String) :
    ('/' ∉ text.toList ∧ cutAtSlash text = (text, "/")) ∨
      ∃ host rest, '/' ∉ host.toList ∧ text = host ++ ("/" ++ rest) ∧
        cutAtSlash text = (host, "/" ++ rest) := by
  -- The first slash is where the text is cut.
  by_cases slashed : '/' ∈ text.toList
  · obtain ⟨host, rest, split, slashless⟩ := List.eq_append_cons_of_mem slashed
    have whole : text = String.ofList host ++ ("/" ++ String.ofList rest) := by
      rw [← String.toList_inj, split]
      simp [String.toList_append]
    have absent : '/' ∉ (String.ofList host).toList := by rwa [String.toList_ofList]
    exact .inr ⟨_, _, absent, whole, by rw [whole]; exact cutAtSlash_append absent _⟩
  · exact .inl ⟨slashed, cutAtSlash_of_not_mem slashed⟩

end Slash

section Port

/-- Something, a colon, and a port of digits. -/
def HasPort (host : String) : Prop :=
  ∃ name port, host = name ++ ":" ++ port ∧ name ≠ "" ∧ port ≠ "" ∧
    ∀ c ∈ port.toList, isAsciiDigit c = true

/-- A host brings its own port exactly if it is one with a port. -/
theorem namesPort_iff : namesPort host = true ↔ HasPort host := by
  -- The digits are those behind the last colon, and neither side is empty.
  constructor
  · intro named
    unfold namesPort at named
    split at named
    · rename_i name port cut
      simp only [Bool.and_eq_true, Bool.not_eq_true', List.all_eq_true] at named
      refine ⟨name, port, (cutAtLastColon?_eq_some_iff.1 cut).1, ?_, ?_, named.2⟩
      · rintro rfl
        exact absurd named.1.1 (by decide)
      · rintro rfl
        exact absurd named.1.2 (by decide)
    · cases named
  · rintro ⟨name, port, rfl, nonempty, digits, all⟩
    -- The colon in front of the digits is the last one.
    have uncut : ':' ∉ port.toList := fun member => absurd (all ':' member) (by decide)
    have named : name.isEmpty = false := by rwa [Bool.eq_false_iff, ne_eq, String.isEmpty_iff]
    have ported : port.isEmpty = false := by rwa [Bool.eq_false_iff, ne_eq, String.isEmpty_iff]
    have cut := cutAtLastColon?_eq_some_iff.2 ⟨(rfl : name ++ ":" ++ port = _), uncut⟩
    simp only [namesPort, cut, named, ported, List.all_eq_true.2 all]
    rfl

/-- A host that has a port keeps it. -/
theorem withPort_of_hasPort (ported : HasPort host) : withPort host = host :=
  if_pos (namesPort_iff.2 ported)

/-- A host has its port afterwards, which is its own or eighty. -/
theorem withPort_cases (host : String) :
    HasPort host ∧ withPort host = host ∨ ¬ HasPort host ∧ withPort host = host ++ ":80" := by
  by_cases ported : HasPort host
  · exact .inl ⟨ported, withPort_of_hasPort ported⟩
  · exact .inr ⟨ported, if_neg (mt namesPort_iff.1 ported)⟩

/-- A host that is not empty has a port afterwards. -/
theorem hasPort_withPort (nonempty : host ≠ "") : HasPort (withPort host) := by
  rcases withPort_cases host with ⟨ported, same⟩ | ⟨-, added⟩
  · rwa [same]
  · have digits : ∀ c ∈ "80".toList, isAsciiDigit c = true := List.all_eq_true.1 (by decide)
    rw [added]
    exact ⟨host, "80", by rw [String.append_assoc]; rfl, nonempty, by decide, digits⟩

/-- A port brings no slash. -/
theorem slash_not_mem_withPort (slashless : '/' ∉ host.toList) : '/' ∉ (withPort host).toList := by
  rcases withPort_cases host with ⟨-, same⟩ | ⟨-, added⟩
  · rwa [same]
  · rw [added, String.toList_append, List.mem_append]
    rintro (inside | digit)
    · exact slashless inside
    · exact absurd digit (by decide)

end Port

section Bare

/-- The target of a text that has no scheme in front. -/
def ofBare (bare : String) : Except ProtocolFault Target :=
  if (cutAtSlash bare).1.isEmpty then .error (.missingHost bare)
  else .ok ⟨withPort (cutAtSlash bare).1, (cutAtSlash bare).2⟩

/-- Encryption is refused. -/
theorem ofText_encrypted (rest : String) :
    ofText (encryptedScheme ++ rest) = .error (.encryptedTarget (encryptedScheme ++ rest)) := by
  rw [ofText, after?_append, Option.isSome_some, if_pos rfl]

/-- The two schemes differ where the colon of the first one stands. -/
theorem scheme_append_ne (bare rest : String) : scheme ++ bare ≠ encryptedScheme ++ rest := by
  intro same
  have chars := congrArg String.toList same
  simp [String.toList_append, scheme, encryptedScheme] at chars

/-- A scheme that is supported is left out, once. -/
theorem ofText_scheme (bare : String) : ofText (scheme ++ bare) = ofBare bare := by
  have plain := after?_eq_none (scheme_append_ne bare)
  rw [ofText, plain, if_neg (by decide), after?_append]
  rfl

/-- A text without a scheme is taken as it is. -/
theorem ofText_bare (unencrypted : ∀ rest, text ≠ encryptedScheme ++ rest)
    (plain : ∀ bare, text ≠ scheme ++ bare) : ofText text = ofBare text := by
  rw [ofText, after?_eq_none unencrypted, if_neg (by decide), after?_eq_none plain]
  rfl

/-- A text asks for encryption, or its scheme is left out, or it has none. -/
theorem ofText_cases (text : String) :
    (∃ rest, text = encryptedScheme ++ rest) ∨
      ∃ bare, (text = bare ∨ text = scheme ++ bare) ∧ ofText text = ofBare bare := by
  -- The encrypted scheme is looked for first.
  by_cases encrypted : ∃ rest, text = encryptedScheme ++ rest
  · exact .inl encrypted
  · by_cases schemed : ∃ bare, text = scheme ++ bare
    · obtain ⟨bare, rfl⟩ := schemed
      exact .inr ⟨bare, .inr rfl, ofText_scheme bare⟩
    · rw [not_exists] at encrypted schemed
      exact .inr ⟨text, .inl rfl, ofText_bare encrypted schemed⟩

end Bare

/-- A target whose host has a port, and whose path begins with the first slash. -/
structure IsNormal (target : Target) : Prop where
  port : HasPort target.authority
  host : '/' ∉ target.authority.toList
  path : ∃ rest, target.path = "/" ++ rest

/--
A text that names a target: its host, which may stand behind a scheme and may be without the port
eighty, and its path, which may be left out if it is a single slash.
-/
def Names (text : String) (target : Target) : Prop :=
  ∃ bare host, (text = bare ∨ text = scheme ++ bare) ∧
    (bare = host ++ target.path ∨ bare = host ∧ target.path = "/") ∧
    (target.authority = host ∨ target.authority = host ++ ":80")

section Normal

/-- Nothing stands in front of the first slash. -/
def LacksHost (bare : String) : Prop := bare = "" ∨ ∃ rest, bare = "/" ++ rest

/-- Without a host there is no target. -/
theorem LacksHost.ofBare {bare : String} (lacks : LacksHost bare) :
    Target.ofBare bare = .error (.missingHost bare) := by
  -- The cut leaves no host in front of it.
  have cut : ∃ path, cutAtSlash bare = ("", path) := by
    rcases lacks with rfl | ⟨rest, rfl⟩
    · exact ⟨_, cutAtSlash_of_not_mem (by decide)⟩
    · have slashless : '/' ∉ "".toList := by decide
      have cut := cutAtSlash_append slashless rest
      rw [String.empty_append] at cut
      exact ⟨_, cut⟩
  obtain ⟨path, cut⟩ := cut
  rw [Target.ofBare, cut]
  rfl

/-- A host that is not empty is brought into normal form. -/
theorem isNormal_withPort {path : String} (nonempty : host ≠ "") (slashless : '/' ∉ host.toList)
    (begins : ∃ rest, path = "/" ++ rest) : IsNormal ⟨withPort host, path⟩ :=
  ⟨hasPort_withPort nonempty, slash_not_mem_withPort slashless, begins⟩

/-- With a host there is a target, which is in normal form and is the one that is named. -/
theorem ofBare_of_host {bare : String} (hosted : ¬ LacksHost bare) :
    ∃ target host, ofBare bare = .ok target ∧ target.IsNormal ∧
      (bare = host ++ target.path ∨ bare = host ∧ target.path = "/") ∧
      (target.authority = host ∨ target.authority = host ++ ":80") := by
  have port (host : String) : withPort host = host ∨ withPort host = host ++ ":80" :=
    (withPort_cases host).imp And.right And.right
  rw [LacksHost, not_or, not_exists] at hosted
  -- Without a slash all of the bare text is the host, and the path is the root.
  rcases cutAtSlash_cases bare with ⟨slashless, cut⟩ | ⟨host, rest, slashless, whole, cut⟩
  · refine ⟨⟨withPort bare, "/"⟩, bare, ?_, isNormal_withPort hosted.1 slashless ⟨"", rfl⟩,
      .inr ⟨rfl, rfl⟩, port bare⟩
    rw [ofBare, cut, if_neg (by rw [String.isEmpty_iff]; exact hosted.1)]
  · have nonempty : host ≠ "" := by
      rintro rfl
      exact hosted.2 rest (by rw [whole, String.empty_append])
    refine ⟨⟨withPort host, "/" ++ rest⟩, host, ?_,
      isNormal_withPort nonempty slashless ⟨rest, rfl⟩, .inl whole, port host⟩
    rw [ofBare, cut, if_neg (by rw [String.isEmpty_iff]; exact nonempty)]

/-- A text without a host has none behind the scheme either. -/
theorem LacksHost.ofText {bare : String} (lacks : LacksHost bare)
    (whole : text = bare ∨ text = scheme ++ bare) :
    Target.ofText text = .error (.missingHost bare) := by
  rcases whole with rfl | rfl
  · -- A scheme begins with a letter.
    have other (opening rest : String) (letter : opening.toList.head? = some 'h') :
        text ≠ opening ++ rest := by
      intro same
      have first : text.toList.head? = some 'h' := by
        rw [same, String.toList_append, List.head?_append, letter, Option.some_or]
      rcases lacks with rfl | ⟨behind, rfl⟩
      · cases first
      · rw [String.toList_append] at first
        cases first
    rw [ofText_bare (other encryptedScheme · rfl) (other scheme · rfl), lacks.ofBare]
  · rw [ofText_scheme, lacks.ofBare]

/-- A target in normal form is found where its two parts stand one behind the other. -/
theorem IsNormal.ofBare_append (normal : target.IsNormal) :
    ofBare (target.authority ++ target.path) = .ok target := by
  -- A normal target has its port already, so that the cut is all that happens.
  obtain ⟨rest, path⟩ := normal.path
  obtain ⟨name, port, ported, named, -, -⟩ := normal.port
  have nonempty : ¬ target.authority.isEmpty = true := by
    rw [String.isEmpty_iff, ported]
    simp [named]
  have cut := cutAtSlash_append normal.host rest
  rw [← path] at cut
  rw [ofBare, cut, if_neg nonempty]
  show Except.ok (⟨withPort target.authority, target.path⟩ : Target) = _
  rw [withPort_of_hasPort normal.port]

/-- The host of a target in normal form is never taken for a scheme. -/
theorem IsNormal.append_ne (normal : target.IsNormal) {word : String}
    (slashless : '/' ∉ word.toList) (unported : namesPort word = false) (rest : String) :
    target.authority ++ target.path ≠ word ++ ("/" ++ rest) := by
  -- Both texts would be cut at the same slash, and so the word would be the host.
  intro same
  obtain ⟨behind, path⟩ := normal.path
  have cut := cutAtSlash_append normal.host behind
  rw [← path, same, cutAtSlash_append slashless rest, Prod.mk.injEq] at cut
  have ported := namesPort_iff.2 normal.port
  rw [← cut.1, unported] at ported
  cases ported

/-- A target in normal form is named by its two parts, with or without a scheme in front. -/
theorem IsNormal.ofText_append (normal : target.IsNormal) :
    ofText (target.authority ++ target.path) = .ok target ∧
      ofText (scheme ++ (target.authority ++ target.path)) = .ok target := by
  -- Both schemes end with a colon and two slashes, so that they would leave a host without a port.
  have opening (word rest : String) : word ++ "//" ++ rest = word ++ ("/" ++ ("/" ++ rest)) := by
    rw [String.append_assoc]
    rfl
  have encrypted (rest : String) :
      target.authority ++ target.path ≠ "https:" ++ ("/" ++ ("/" ++ rest)) :=
    normal.append_ne (by decide) (by decide) _
  have plain (bare : String) :
      target.authority ++ target.path ≠ "http:" ++ ("/" ++ ("/" ++ bare)) :=
    normal.append_ne (by decide) (by decide) _
  simp only [← opening] at encrypted plain
  constructor
  · rw [ofText_bare encrypted plain, normal.ofBare_append]
  · rw [ofText_scheme, normal.ofBare_append]

/-- A text asks for encryption, or has no host, or names a target in normal form. -/
theorem ofText_outcomes (text : String) :
    (∃ rest, text = encryptedScheme ++ rest) ∧ ofText text = .error (.encryptedTarget text) ∨
      (∃ bare, (text = bare ∨ text = scheme ++ bare) ∧ LacksHost bare ∧
        ofText text = .error (.missingHost bare)) ∨
      ∃ target, ofText text = .ok target ∧ target.IsNormal ∧ Names text target := by
  rcases ofText_cases text with ⟨rest, rfl⟩ | ⟨bare, whole, same⟩
  · exact .inl ⟨⟨rest, rfl⟩, ofText_encrypted rest⟩
  · by_cases lacks : LacksHost bare
    · exact .inr (.inl ⟨bare, whole, lacks, lacks.ofText whole⟩)
    · obtain ⟨target, host, found, normal, parts, port⟩ := ofBare_of_host lacks
      exact .inr (.inr ⟨target, same.trans found, normal, bare, host, whole, parts, port⟩)

/-- A target that was found is in normal form, and it is the one that the text names. -/
theorem normal_of_ofText (found : ofText text = .ok target) :
    target.IsNormal ∧ Names text target := by
  -- Of the three outcomes two are refusals.
  rcases ofText_outcomes text with ⟨-, refused⟩ | ⟨_, -, -, refused⟩ | ⟨_, same, normal, names⟩
  · rw [refused] at found
    cases found
  · rw [refused] at found
    cases found
  · rw [same] at found
    cases found
    exact ⟨normal, names⟩

end Normal

/--
Every text that names a target is brought into a normal form, which names the same target.

The authority is a host that is not empty and without a slash, followed by a colon and a port of
digits, and the path begins with a slash. The two of them one behind the other name the same target
again, and so they do behind the scheme. Only two kinds of text name no target: those that ask for
encryption, and those without a host, where nothing or a slash stands behind the scheme, if there is
one.
-/
theorem ofText_normal_form (text : String) :
    (∀ target, ofText text = .ok target →
      (∃ host port, target.authority = host ++ ":" ++ port ∧ host ≠ "" ∧ '/' ∉ host.toList ∧
        port ≠ "" ∧ ∀ c ∈ port.toList, isAsciiDigit c = true) ∧
      (∃ rest, target.path = "/" ++ rest) ∧
      ofText (target.authority ++ target.path) = .ok target ∧
      ofText ("http://" ++ target.authority ++ target.path) = .ok target ∧
      Names text target) ∧
    ∀ fault, ofText text = .error fault ↔
      (∃ rest, text = "https://" ++ rest) ∧ fault = .encryptedTarget text ∨
        ∃ bare, (text = bare ∨ text = "http://" ++ bare) ∧
          (bare = "" ∨ ∃ rest, bare = "/" ++ rest) ∧ fault = .missingHost bare := by
  constructor
  · intro target found
    obtain ⟨normal, names⟩ := normal_of_ofText found
    obtain ⟨host, port, ported, nonempty, digits, all⟩ := normal.port
    obtain ⟨again, schemed⟩ := normal.ofText_append
    -- The host is a part of the authority, which has no slash.
    have slashless : '/' ∉ host.toList := by
      intro inside
      refine normal.host ?_
      rw [ported, String.append_assoc, String.toList_append]
      exact List.mem_append_left _ inside
    refine ⟨⟨host, port, ported, nonempty, slashless, digits, all⟩, normal.path, again, ?_, names⟩
    rw [String.append_assoc]
    exact schemed
  · intro fault
    -- A refusal is one of the two, whichever side it is read from.
    constructor
    · intro failed
      rcases ofText_outcomes text with
        ⟨encrypted, refused⟩ | ⟨bare, whole, lacks, refused⟩ | ⟨_, same, -, -⟩
      · rw [refused] at failed
        cases failed
        exact .inl ⟨encrypted, rfl⟩
      · rw [refused] at failed
        cases failed
        exact .inr ⟨bare, whole, lacks, rfl⟩
      · rw [same] at failed
        cases failed
    · rintro (⟨⟨rest, rfl⟩, rfl⟩ | ⟨bare, whole, lacks, rfl⟩)
      · exact ofText_encrypted rest
      · exact LacksHost.ofText lacks whole

/-- Of two schemes the second one is a host without a port, and a colon may stand in a host. -/
theorem ofText_normal_form_nested :
    ofText "http://http://a:b" = .ok ⟨"http::80", "//a:b"⟩ ∧
      ofText "http::80//a:b" = .ok ⟨"http::80", "//a:b"⟩ ∧
      ofText "http://http::80//a:b" = .ok ⟨"http::80", "//a:b"⟩ := by
  have found : ofText "http://http://a:b" = .ok ⟨"http::80", "//a:b"⟩ := by decide +kernel
  obtain ⟨-, -, again, schemed, -⟩ := (ofText_normal_form "http://http://a:b").1 _ found
  exact ⟨found, again, schemed⟩

end Target

end HttpEngine
