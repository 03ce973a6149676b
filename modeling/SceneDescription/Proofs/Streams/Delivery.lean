import SceneDescription.Proofs.Sessions.Runs
import SceneDescription.Proofs.Splicing.SplicedScenes
import SceneDescription.Proofs.Streams.Calls

/-!
# Delivery in order

Whatever is called on a stream, each of its texts delivers its tokens in order.  A text delivers nothing while a text
that was opened in it is still open; it is left once, after its last token, and what it carried is handed out then
(`Root.stream_in_order`).  `Watched.Kept` says what the log of a stream has to do with its open texts; the step lemmas
show it for a token, for the end of a text, and for a new text.
-/

namespace SceneDescription

section Texts

variable {κ : Type} {library : Library} {root : List Token} {log : List (Deed κ)}

/-- The tokens of a text, by its number in the log. -/
def tokensOf? (library : Library) (root : List Token) (log : List (Deed κ)) : Nat → Option (List Token)
  | 0 => some root
  | i + 1 => (openings log)[i]?.bind fun opening => library.tokens? opening.path

/-! ### Logs grow -/

private theorem getElem?_openings_append {i : Nat} {opening : Opening κ} (d : Deed κ)
    (h : (openings log)[i]? = some opening) : (openings (log ++ [d]))[i]? = some opening := by
  rw [openings, List.filterMap_append]
  exact List.getElem?_append_left (List.getElem?_eq_some_iff.1 h).1 ▸ h

private theorem tokensOf?_append {text : Nat} {tokens : List Token} (d : Deed κ)
    (h : tokensOf? library root log text = some tokens) :
    tokensOf? library root (log ++ [d]) text = some tokens := by
  cases text with
  | zero => exact h
  | succ i =>
    obtain ⟨opening, hopening, htokens⟩ := Option.bind_eq_some_iff.1 h
    exact Option.bind_eq_some_iff.2 ⟨opening, getElem?_openings_append d hopening, htokens⟩

/-! ### Open texts -/

/-- The tokens that a text has still to give: the one in its buffer, and those that its scanner will find. -/
def BufferedFrame.Over (f : BufferedFrame κ) (rest : List Token) : Prop :=
  f.lookahead.length ≤ 1 ∧ (f.unrolled 1).cursor.Over rest

private theorem BufferedFrame.over_of_cursor {f : BufferedFrame κ} {rest : List Token} {line : Nat}
    (hbuffer : f.lookahead.length ≤ 1) (h : (f.unrolled line).cursor.Over rest) : f.Over rest :=
  ⟨hbuffer, h.1, h.2⟩

theorem BufferedFrame.Over.unique {f : BufferedFrame κ} {rest rest' : List Token} (h : f.Over rest)
    (h' : f.Over rest') : rest = rest' :=
  map_token_inj (h.2.1.symm.trans h'.2.1)

/-- What an action on the innermost text leaves, if it has taken some of the tokens. -/
structure BufferedStream.Takes (b b' : BufferedStream κ) (rest : List Token) : Prop where
  below : b'.below = b.below
  goesOn : b.top.GoesOn b'.top
  ahead : b'.top.Over rest

namespace BufferedStream

variable {b b' : BufferedStream κ} {rest : List Token}

private theorem take_over (h : b.top.Over rest) : ∃ b', take b = .ok rest.head? b' ∧ b.Takes b' rest.tail := by
  obtain ⟨hbuffer, hover⟩ := h
  have halike := BufferedFrame.take_alike hbuffer 1
  have htake : ∃ c, Read.take (b.top.unrolled 1).cursor = .ok rest.head? c ∧ c.Over rest.tail := by
    cases rest with
    | nil =>
      refine ⟨_, ?_, hover⟩
      rw [Read.take, hover.1, hover.2]
      rfl
    | cons t rest => exact Read.take_over hover
  obtain ⟨c, htake, hrest⟩ := htake
  rw [htake] at halike
  rw [take_apply]
  generalize BufferedFrame.take b.top = taken at halike
  cases halike with
  | ok t? hgoes =>
    have hover' := BufferedFrame.over_of_cursor hgoes.buffer hrest
    cases rest with
    | nil => exact ⟨_, rfl, ⟨rfl, hgoes, hover'⟩⟩
    | cons t rest => exact ⟨_, rfl, ⟨rfl, hgoes, hover'⟩⟩

private theorem peek_over (h : b.top.Over rest) : ∃ b', peek b = .ok rest.head? b' ∧ b.Takes b' rest := by
  obtain ⟨hbuffer, hover⟩ := h
  have halike := BufferedFrame.peek_alike hbuffer 1
  rw [Read.peek_over hover] at halike
  unfold peek onTop
  generalize hpeek : BufferedFrame.peek b.top = seen at halike
  generalize hresult : EStateM.Result.ok rest.head? (b.top.unrolled 1).cursor = result at halike
  cases halike with
  | ok t? hgoes =>
    obtain ⟨rfl, hcursor⟩ := EStateM.Result.ok.inj hresult
    rw [hcursor] at hover
    exact ⟨_, rfl, ⟨rfl, hgoes, BufferedFrame.over_of_cursor hgoes.buffer hover⟩⟩
  | error r hgoes => cases hresult

end BufferedStream

private theorem Library.over_of_tokens? {path : Path} {text : List Char} {tokens : List Token}
    (htext : library.files.readText library.config path = .ok text) (htokens : library.tokens? path = some tokens) :
    (Cursor.ofText path.toText text).Over tokens := by
  unfold tokens? at htokens
  rw [htext] at htokens
  exact Cursor.over_ofText htokens

/-- A text has still to give what it has not delivered yet. -/
def BufferedFrame.Owes (library : Library) (root : List Token) (log : List (Deed κ)) (frame : BufferedFrame κ)
    (text : Nat) : Prop :=
  ∃ rest, frame.Over rest ∧ tokensOf? library root log text = some (deliveredFrom text log ++ rest)

/-- Open texts and their numbers, innermost first. -/
inductive OpenTexts (library : Library) (root : List Token) (log : List (Deed κ)) :
    List (BufferedFrame κ) → List Nat → Prop
  | outermost {frame : BufferedFrame κ} (howes : frame.Owes library root log 0) : OpenTexts library root log [frame] [0]
  | inner {frame outer : BufferedFrame κ} {below : List (BufferedFrame κ)} {i text : Nat} {texts : List Nat}
      {path : Path} (howes : frame.Owes library root log (i + 1))
      (hopening : (openings log)[i]? = some ⟨path, outer.source, frame.onClose⟩) (hlt : text < i + 1)
      (houter : OpenTexts library root log (outer :: below) (text :: texts)) :
      OpenTexts library root log (frame :: outer :: below) ((i + 1) :: text :: texts)

namespace OpenTexts

variable {frame : BufferedFrame κ} {frames below : List (BufferedFrame κ)} {text : Nat} {texts : List Nat}

private theorem le_openings (h : OpenTexts library root log frames texts) : ∀ n ∈ texts, n ≤ (openings log).length := by
  induction h with
  | outermost _ => simp
  | inner _ hopening _ _ ih => exact List.forall_mem_cons.2 ⟨(List.getElem?_eq_some_iff.1 hopening).1, ih⟩

/-- Inner texts have been opened later. -/
private theorem lt_head (h : OpenTexts library root log frames (text :: texts)) : ∀ n ∈ texts, n < text := by
  induction texts generalizing frames text with
  | nil => simp
  | cons outer texts ih =>
    cases h with
    | inner _ _ hlt houter =>
      refine List.forall_mem_cons.2 ⟨hlt, fun n hn => ?_⟩
      exact (ih houter n hn).trans hlt

/-- What is noted elsewhere does not concern the open texts. -/
private theorem append (h : OpenTexts library root log frames texts) {d : Deed κ}
    (hd : ∀ n ∈ texts, deliveredFrom n (log ++ [d]) = deliveredFrom n log) :
    OpenTexts library root (log ++ [d]) frames texts := by
  have howes : ∀ {frame : BufferedFrame κ} {n : Nat}, n ∈ texts → frame.Owes library root log n →
      frame.Owes library root (log ++ [d]) n := by
    rintro frame n hn ⟨rest, hover, htokens⟩
    exact ⟨rest, hover, by rw [hd n hn]; exact tokensOf?_append d htokens⟩
  induction h with
  | outermost howes₀ => exact .outermost (howes (List.mem_cons_self ..) howes₀)
  | inner howes₀ hopening hlt _ ih =>
    refine .inner (howes (List.mem_cons_self ..) howes₀) (getElem?_openings_append d hopening) hlt (ih ?_ ?_)
    · exact fun n hn => hd n (List.mem_cons_of_mem _ hn)
    · exact fun hn => howes (List.mem_cons_of_mem _ hn)

/-- Nothing is known of the innermost text but what it owes and what is handed out at its end. -/
private theorem of_top {frame' : BufferedFrame κ} (h : OpenTexts library root log (frame :: below) texts)
    (hclose : frame'.onClose = frame.onClose)
    (howes : ∀ text, frame.Owes library root log text → frame'.Owes library root log text) :
    OpenTexts library root log (frame' :: below) texts := by
  cases h with
  | outermost howes₀ => exact .outermost (howes _ howes₀)
  | inner howes₀ hopening hlt houter => exact .inner (howes _ howes₀) (hclose ▸ hopening) hlt houter

private theorem owes_top (h : OpenTexts library root log (frame :: below) (text :: texts)) :
    frame.Owes library root log text := by
  cases h with
  | outermost howes => exact howes
  | inner howes _ _ _ => exact howes

private theorem exists_owes (h : OpenTexts library root log frames texts) :
    ∀ n ∈ texts, ∃ frame : BufferedFrame κ, frame.Owes library root log n := by
  induction h with
  | outermost howes => exact List.forall_mem_singleton.2 ⟨_, howes⟩
  | inner howes _ _ _ ih => exact List.forall_mem_cons.2 ⟨⟨_, howes⟩, ih⟩

/-- How an inner text has been opened. -/
private theorem exists_opening {outer : BufferedFrame κ}
    (h : OpenTexts library root log (frame :: outer :: below) (text :: texts)) :
    OpenTexts library root log (outer :: below) texts ∧
      ∃ i path, text = i + 1 ∧ (openings log)[i]? = some ⟨path, outer.source, frame.onClose⟩ := by
  cases h with
  | inner _ hopening _ houter => exact ⟨houter, _, _, rfl, hopening⟩

/-- The innermost text has delivered a token. -/
private theorem deliver (h : OpenTexts library root log (frame :: below) (text :: texts)) {t : Token}
    {frame' : BufferedFrame κ} (hclose : frame'.onClose = frame.onClose)
    (hgives : ∀ rest, frame.Over rest → ∃ rest', rest = t :: rest' ∧ frame'.Over rest') :
    OpenTexts library root (log ++ [.delivered text t]) (frame' :: below) (text :: texts) := by
  have howes : frame'.Owes library root (log ++ [.delivered text t]) text := by
    obtain ⟨rest, hover, htokens⟩ := h.owes_top
    obtain ⟨rest', rfl, hover'⟩ := hgives rest hover
    refine ⟨rest', hover', ?_⟩
    rw [deliveredFrom_delivered, List.append_assoc]
    exact tokensOf?_append _ htokens
  have hbelow := h.lt_head
  cases h with
  | outermost _ => exact .outermost howes
  | inner _ hopening hlt houter =>
    refine .inner howes (hclose ▸ getElem?_openings_append _ hopening) hlt (houter.append fun n hn => ?_)
    exact deliveredFrom_of_ne _ fun heq => (hbelow n hn).ne (Option.some.inj heq).symm

end OpenTexts

/-! ### What every log keeps -/

/-- All texts that were opened later than this one have been left. -/
def LaterLeft (log : List (Deed κ)) (text : Nat) : Prop :=
  ∀ later, text < later → later ≤ (openings log).length → timesLeft later log = 1

/-- What must have happened before a deed.  A text delivers while it is open and no later one is.  It is left when all
its tokens have been delivered and all later texts have been left, and what it was opened with is handed out in the
text it was opened in. -/
def Due (library : Library) (root : List Token) (earlier : List (Deed κ)) : Deed κ → Prop
  | .opened _ => True
  | .delivered text _ => timesLeft text earlier = 0 ∧ LaterLeft earlier text
  | .left text handed => timesLeft text earlier = 0 ∧ LaterLeft earlier text ∧
      tokensOf? library root earlier text = some (deliveredFrom text earlier) ∧
      ∃ i opening, text = i + 1 ∧ (openings earlier)[i]? = some opening ∧
        handed = opening.onClose.map (·, opening.within)

/-- A text has been left, and it has delivered all its tokens. -/
def Settled (library : Library) (root : List Token) (log : List (Deed κ)) (text : Nat) : Prop :=
  timesLeft text log = 1 ∧ tokensOf? library root log text = some (deliveredFrom text log)

/-- Every deed in a log has been due. -/
def InOrder (library : Library) (root : List Token) (log : List (Deed κ)) : Prop :=
  ∀ earlier d later, log = earlier ++ d :: later → Due library root earlier d

private theorem InOrder.append {d : Deed κ} (h : InOrder library root log) (hd : Due library root log d) :
    InOrder library root (log ++ [d]) := by
  intro earlier d' later hsplit
  rcases List.eq_nil_or_concat later with rfl | ⟨later, last, rfl⟩
  · obtain ⟨rfl, ⟨⟩⟩ := List.append_inj' hsplit rfl
    exact hd
  · rw [List.concat_eq_append, ← List.cons_append, ← List.append_assoc] at hsplit
    obtain ⟨hlog, _⟩ := List.append_inj' hsplit rfl
    exact h earlier d' later hlog

namespace Watched

/-- The log of a stream, and what it says of the texts: those that are open, those that have been left, and those that
are still to be opened. -/
structure Kept (library : Library) (root : List Token) (w : Watched κ) : Prop where
  texts : OpenTexts library root w.log w.stream.frames w.texts
  opened : ∀ text ∈ w.texts, timesLeft text w.log = 0
  settled : ∀ text, text ≤ (openings w.log).length → text ∉ w.texts → Settled library root w.log text
  unopened : ∀ text, (openings w.log).length < text →
    timesLeft text w.log = 0 ∧ deliveredFrom text w.log = []
  inOrder : InOrder library root w.log

namespace Kept

variable {w : Watched κ}

/-- The number of the innermost text, and those of the texts around it. -/
private theorem exists_texts (h : w.Kept library root) :
    ∃ below, w.texts = w.top :: below ∧
      OpenTexts library root w.log (w.stream.top :: w.stream.below) (w.top :: below) := by
  have htexts := h.texts
  obtain ⟨⟨top, below⟩, texts, log⟩ := w
  cases htexts with
  | outermost howes => exact ⟨[], rfl, .outermost howes⟩
  | inner howes hopening hlt houter => exact ⟨_, rfl, .inner howes hopening hlt houter⟩

private theorem laterLeft (h : w.Kept library root) : LaterLeft w.log w.top := by
  obtain ⟨below, htexts, hopen⟩ := h.exists_texts
  intro later hlater hle
  refine (h.settled later hle ?_).1
  rw [htexts]
  intro hmem
  rcases List.mem_cons.1 hmem with rfl | hmem
  · exact lt_irrefl _ hlater
  · exact lt_asymm hlater (hopen.lt_head later hmem)

private theorem top_mem (h : w.Kept library root) : w.top ∈ w.texts := by
  obtain ⟨below, htexts, _⟩ := h.exists_texts
  rw [htexts]
  exact List.mem_cons_self ..

/-- The tokens that the innermost text has still to give. -/
private theorem exists_over (h : w.Kept library root) : ∃ rest, w.stream.top.Over rest := by
  obtain ⟨_, _, hopen⟩ := h.exists_texts
  obtain ⟨rest, hover, _⟩ := hopen.owes_top
  exact ⟨rest, hover⟩

/-- The innermost text goes on without giving any token. -/
private theorem stay (h : w.Kept library root) {stream : BufferedStream κ} {rest : List Token}
    (hover : w.stream.top.Over rest) (htakes : w.stream.Takes stream rest) :
    Kept library root { w with stream } := by
  refine { h with texts := ?_ }
  show OpenTexts library root w.log (stream.top :: stream.below) w.texts
  rw [htakes.below]
  refine OpenTexts.of_top h.texts htakes.goesOn.onClose ?_
  rintro text ⟨rest', hover', htokens⟩
  cases hover.unique hover'
  exact ⟨rest, htakes.ahead, htokens⟩

/-! What happens to open texts does not concern the others. -/

section

variable {d : Deed κ} {text : Nat}

private theorem settled_append (h : w.Kept library root) (hd : ∀ text, d.text? = some text → text ∈ w.texts)
    (hle : text ≤ (openings w.log).length) (hmem : text ∉ w.texts) :
    Settled library root (w.log ++ [d]) text := by
  have hne : d.text? ≠ some text := fun heq => hmem (hd text heq)
  obtain ⟨hleft, htokens⟩ := h.settled text hle hmem
  rw [Settled, timesLeft_of_ne w.log hne, deliveredFrom_of_ne w.log hne]
  exact ⟨hleft, tokensOf?_append d htokens⟩

private theorem unopened_append (h : w.Kept library root) (hd : ∀ text, d.text? = some text → text ∈ w.texts)
    (hlt : (openings w.log).length < text) :
    timesLeft text (w.log ++ [d]) = 0 ∧ deliveredFrom text (w.log ++ [d]) = [] := by
  have hne : d.text? ≠ some text :=
    fun heq => absurd (h.texts.le_openings text (hd text heq)) (Nat.not_le.2 hlt)
  rw [timesLeft_of_ne w.log hne, deliveredFrom_of_ne w.log hne]
  exact h.unopened text hlt

end

/-- The step of a token. -/
private theorem deliver (h : w.Kept library root) {t : Token} {stream : BufferedStream κ} {rest : List Token}
    (hover : w.stream.top.Over (t :: rest)) (htakes : w.stream.Takes stream rest) :
    (w.deliver t stream).Kept library root := by
  obtain ⟨below, htexts, hopen⟩ := h.exists_texts
  have hconcerns : ∀ text, (Deed.delivered w.top t : Deed κ).text? = some text → text ∈ w.texts := by
    rintro _ ⟨⟩
    exact h.top_mem
  constructor
  · show OpenTexts library root _ (stream.top :: stream.below) w.texts
    rw [htexts, htakes.below]
    refine hopen.deliver htakes.goesOn.onClose fun rest' hover' => ?_
    cases hover.unique hover'
    exact ⟨rest, rfl, htakes.ahead⟩
  · intro text hmem
    rw [Watched.deliver, timesLeft_delivered]
    exact h.opened text hmem
  · intro text hle hmem
    rw [Watched.deliver, openings_delivered] at hle
    exact h.settled_append hconcerns hle hmem
  · intro text hlt
    rw [Watched.deliver, openings_delivered] at hlt
    exact h.unopened_append hconcerns hlt
  · exact h.inOrder.append ⟨h.opened _ h.top_mem, h.laterLeft⟩

/-- The step of the end of a text. -/
private theorem leave (h : w.Kept library root) {ended : BufferedStream κ} {outer : BufferedFrame κ}
    {below : List (BufferedFrame κ)} (hover : w.stream.top.Over []) (htakes : w.stream.Takes ended [])
    (hbelow : ended.below = outer :: below) : (w.leave ended.top (ended.backTo outer below)).Kept library root := by
  obtain ⟨texts, htexts, hopen⟩ := h.exists_texts
  have htop := h.opened _ h.top_mem
  have hlater := h.laterLeft
  have hconcerns : ∀ handed text, (Deed.left w.top handed : Deed κ).text? = some text → text ∈ w.texts := by
    rintro handed _ ⟨⟩
    exact h.top_mem
  have hlt := hopen.lt_head
  have hall : tokensOf? library root w.log w.top = some (deliveredFrom w.top w.log) := by
    obtain ⟨rest, hover', htokens⟩ := hopen.owes_top
    rw [htokens, hover'.unique hover, List.append_nil]
  rw [← htakes.below, hbelow] at hopen
  obtain ⟨houter, i, path, hnumber, hopening⟩ := hopen.exists_opening
  rw [← htakes.goesOn.onClose] at hopening
  constructor
  · show OpenTexts library root (w.log ++ [_]) (_ :: below) w.texts.tail
    rw [htexts]
    exact houter.append fun n _ => deliveredFrom_left w.log n _ _
  · intro text hmem
    have hmem' : text ∈ texts := by
      rw [Watched.leave, htexts] at hmem
      exact hmem
    have hne : some w.top ≠ some text := fun heq => (hlt text hmem').ne (Option.some.inj heq).symm
    rw [Watched.leave, timesLeft_of_ne w.log (d := .left w.top _) hne]
    refine h.opened text ?_
    rw [htexts]
    exact List.mem_cons_of_mem _ hmem'
  · intro text hle hmem
    rw [Watched.leave, openings_left] at hle
    rw [Watched.leave, htexts] at hmem
    by_cases heq : text = w.top
    · subst heq
      refine ⟨by rw [Watched.leave, timesLeft_left, htop], ?_⟩
      rw [Watched.leave, deliveredFrom_left]
      exact tokensOf?_append _ hall
    · refine h.settled_append (hconcerns _) hle ?_
      rw [htexts]
      intro hmem'
      exact (List.mem_cons.1 hmem').elim heq hmem
  · intro text hlt
    rw [Watched.leave, openings_left] at hlt
    exact h.unopened_append (hconcerns _) hlt
  · exact h.inOrder.append ⟨htop, hlater, hall, i, _, hnumber, hopening, rfl⟩

/-- The step of a new text. -/
private theorem enter (h : w.Kept library root) {relative : String} {line : Option Nat} {onClose : Option κ}
    {path : Path} {stream : BufferedStream κ} {tokens : List Token}
    (hopen : BufferedStream.openFile library relative line onClose w.stream = .ok path stream)
    (htokens : library.tokens? path = some tokens) : (w.enter path onClose stream).Kept library root := by
  obtain ⟨texts, htexts, htop⟩ := h.exists_texts
  obtain ⟨text, hfile, rfl⟩ := BufferedStream.of_openFile_eq_ok hopen
  obtain ⟨_, _, _, htext⟩ := OpenPaths.fileFor_eq_ok.1 hfile
  have hconcerns : ∀ opening text, (Deed.opened opening : Deed κ).text? = some text → text ∈ w.texts := by
    rintro opening text ⟨⟩
  have hnew := h.unopened_append (hconcerns ⟨path, w.stream.source, onClose⟩) (Nat.lt_succ_self _)
  have hle := h.texts.le_openings
  have hopening : (openings (w.log ++ [.opened ⟨path, w.stream.source, onClose⟩]))[(openings w.log).length]? =
      some ⟨path, w.stream.top.source, onClose⟩ := by
    simp [BufferedStream.source]
  constructor
  · show OpenTexts library root (w.log ++ [_]) (_ :: w.stream.top :: w.stream.below) (_ :: w.texts)
    rw [htexts]
    refine .inner ⟨tokens, ⟨Nat.zero_le 1, Library.over_of_tokens? htext htokens⟩, ?_⟩ hopening
      (Nat.lt_succ_of_le (hle _ h.top_mem)) (htop.append fun n _ => deliveredFrom_of_ne _ (by rintro ⟨⟩))
    rw [hnew.2]
    exact Option.bind_eq_some_iff.2 ⟨_, hopening, htokens⟩
  · intro n hmem
    rcases List.mem_cons.1 hmem with rfl | hmem
    · exact hnew.1
    · rw [Watched.enter, timesLeft_of_ne w.log (by rintro ⟨⟩)]
      exact h.opened n hmem
  · intro n hn hmem
    rw [Watched.enter, openings_opened, List.length_append, List.length_singleton] at hn
    obtain ⟨hne, hmem⟩ := not_or.1 (mt List.mem_cons.2 hmem)
    exact h.settled_append (hconcerns _) (Nat.le_of_lt_succ (lt_of_le_of_ne hn hne)) hmem
  · intro n hn
    rw [Watched.enter, openings_opened, List.length_append, List.length_singleton] at hn
    exact h.unopened_append (hconcerns _) (Nat.lt_of_succ_lt hn)
  · exact h.inOrder.append trivial

/-- Where no token is taken, none is left. -/
private theorem of_take_none (h : w.Kept library root) {stream : BufferedStream κ}
    (htake : BufferedStream.take w.stream = .ok none stream) :
    w.stream.top.Over [] ∧ w.stream.Takes stream [] := by
  obtain ⟨rest, hover⟩ := h.exists_over
  obtain ⟨b', htake', htakes⟩ := BufferedStream.take_over hover
  obtain ⟨hhead, rfl⟩ := EStateM.Result.ok.inj (htake.symm.trans htake')
  obtain rfl := List.head?_eq_none_iff.1 hhead.symm
  exact ⟨hover, htakes⟩

/-! Calls are made of these steps. -/

private theorem next (h : w.Kept library root) : w.next.Kept library root := by
  fun_induction Watched.next w with
  | case1 w t stream hadvance =>
    obtain ⟨rest, hover⟩ := h.exists_over
    obtain ⟨b', htake, htakes⟩ := BufferedStream.take_over hover
    obtain ⟨hhead, rfl⟩ := EStateM.Result.ok.inj ((BufferedStream.advance_eq_token hadvance).symm.trans htake)
    obtain ⟨rest', rfl⟩ := List.head?_eq_some_iff.1 hhead.symm
    exact h.deliver hover htakes
  | case2 w frame stream hadvance ih =>
    obtain ⟨ended, outer, below, hended, hbelow, rfl, rfl⟩ := BufferedStream.advance_eq_closed hadvance
    obtain ⟨hover, htakes⟩ := h.of_take_none hended
    exact ih (h.leave hover htakes hbelow)
  | case3 w stream hadvance =>
    obtain ⟨hended, _⟩ := BufferedStream.advance_eq_finished hadvance
    obtain ⟨hover, htakes⟩ := h.of_take_none hended
    exact h.stay hover htakes
  | case4 w r stream hadvance =>
    obtain ⟨rest, hover⟩ := h.exists_over
    obtain ⟨b', htake, _⟩ := BufferedStream.take_over hover
    cases htake.symm.trans (BufferedStream.advance_eq_fault hadvance)

private theorem call (h : w.Kept library root) (c : Call κ)
    (hfiles : ∀ opening ∈ openings (w.call library c).log, ∃ tokens, library.tokens? opening.path = some tokens) :
    (w.call library c).Kept library root := by
  obtain ⟨rest, hover⟩ := h.exists_over
  cases c with
  | peek =>
    obtain ⟨b', hpeek, htakes⟩ := BufferedStream.peek_over hover
    show w.peek.Kept library root
    unfold Watched.peek
    rw [hpeek]
    exact h.stay hover htakes
  | take =>
    obtain ⟨b', htake, htakes⟩ := BufferedStream.take_over hover
    show w.take.Kept library root
    unfold Watched.take
    rw [htake]
    cases rest with
    | nil => exact h.stay hover htakes
    | cons t rest => exact h.deliver hover htakes
  | next => exact h.next
  | openFile relative line onClose =>
    show (w.openFile library relative line onClose).Kept library root
    have hfiles' : ∀ opening ∈ openings (w.openFile library relative line onClose).log,
        ∃ tokens, library.tokens? opening.path = some tokens := hfiles
    unfold Watched.openFile at hfiles' ⊢
    cases hopen : BufferedStream.openFile library relative line onClose w.stream with
    | ok path stream =>
      rw [hopen] at hfiles'
      obtain ⟨tokens, htokens⟩ := hfiles' ⟨path, w.stream.source, onClose⟩ (by simp [Watched.enter])
      exact h.enter hopen htokens
    | error r stream =>
      rw [(BufferedStream.of_openFile_eq_error hopen).1]
      exact h

end Kept

private theorem log_isPrefix_call (w : Watched κ) (library : Library) (c : Call κ) :
    w.log <+: (w.call library c).log := by
  obtain ⟨_, deeds, hlog, _⟩ := w.call_agrees library c
  exact ⟨deeds, hlog.symm⟩

private theorem log_isPrefix_calls (w : Watched κ) (library : Library) (cs : List (Call κ)) :
    w.log <+: (w.calls library cs).log := by
  induction cs generalizing w with
  | nil => exact List.prefix_refl _
  | cons c cs ih => exact (w.log_isPrefix_call library c).trans (ih (w.call library c))

/-- Every sequence of calls keeps the log, as long as the files it opens can be scanned. -/
private theorem Kept.calls {w : Watched κ} (h : w.Kept library root) (cs : List (Call κ))
    (hfiles : ∀ opening ∈ openings (w.calls library cs).log, ∃ tokens, library.tokens? opening.path = some tokens) :
    (w.calls library cs).Kept library root := by
  induction cs generalizing w with
  | nil => exact h
  | cons c cs ih =>
    refine ih (h.call c fun opening hmem => hfiles opening ?_) hfiles
    exact ((w.call library c).log_isPrefix_calls library cs).filterMap _ |>.subset hmem

/-- A stream of one text. -/
private theorem kept_start {s : BufferedStream κ} (hbelow : s.below = []) (hover : s.top.Over root) :
    Kept library root { stream := s } := by
  constructor
  · show OpenTexts library root [] (s.top :: s.below) [0]
    rw [hbelow]
    exact .outermost ⟨root, hover, rfl⟩
  · intro text _
    rfl
  · intro text hle hmem
    exact absurd (List.mem_singleton.2 (Nat.le_zero.1 hle)) hmem
  · intro text _
    exact ⟨rfl, rfl⟩
  · intro earlier d later h
    cases List.append_ne_nil_of_right_ne_nil earlier (List.cons_ne_nil d later) h.symm

/-! ### What follows for the texts -/

namespace Kept

variable {w : Watched κ}

private theorem deliveredFrom_isPrefix (h : w.Kept library root) (text : Nat) :
    deliveredFrom text w.log <+: (tokensOf? library root w.log text).getD [] := by
  by_cases hmem : text ∈ w.texts
  · obtain ⟨frame, rest, _, htokens⟩ := h.texts.exists_owes text hmem
    rw [htokens]
    exact List.prefix_append _ _
  rcases Nat.lt_or_ge (openings w.log).length text with hlt | hle
  · rw [(h.unopened text hlt).2]
    exact List.nil_prefix
  · rw [(h.settled text hle hmem).2]
    exact List.prefix_refl _

private theorem timesLeft_le_one (h : w.Kept library root) (text : Nat) : timesLeft text w.log ≤ 1 := by
  by_cases hmem : text ∈ w.texts
  · rw [h.opened text hmem]
    exact Nat.zero_le 1
  rcases Nat.lt_or_ge (openings w.log).length text with hlt | hle
  · rw [(h.unopened text hlt).1]
    exact Nat.zero_le 1
  · rw [(h.settled text hle hmem).1]

/-- When a stream answers that there are no more tokens, its outermost text has ended, and no other one is open. -/
private theorem next_ended (h : w.Kept library root) (hnone : w.stream.next.1 = .ok none) :
    w.next.stream.below = [] ∧ w.next.stream.top.Over [] := by
  fun_induction Watched.next w with
  | case1 w t stream hadvance =>
    rw [BufferedStream.next_of_token hadvance] at hnone
    cases hnone
  | case2 w frame stream hadvance ih =>
    rw [BufferedStream.next_of_closed hadvance] at hnone
    obtain ⟨ended, outer, below, hended, hbelow, rfl, rfl⟩ := BufferedStream.advance_eq_closed hadvance
    obtain ⟨hover, htakes⟩ := h.of_take_none hended
    exact ih (h.leave hover htakes hbelow) hnone
  | case3 w stream hadvance =>
    obtain ⟨hended, hbelow⟩ := BufferedStream.advance_eq_finished hadvance
    exact ⟨hbelow, (h.of_take_none hended).2.ahead⟩
  | case4 w r stream hadvance =>
    rw [BufferedStream.next_of_fault hadvance] at hnone
    cases hnone

/-- Where there are no more tokens, all texts have delivered theirs, and all but the outermost one have been left. -/
private theorem of_next_eq_none (h : w.Kept library root) (hnone : w.stream.next.1 = .ok none) {text : Nat}
    (hle : text ≤ (openings w.next.log).length) :
    tokensOf? library root w.next.log text = some (deliveredFrom text w.next.log) ∧
      (0 < text → timesLeft text w.next.log = 1) := by
  obtain ⟨hbelow, hnothing⟩ := h.next_ended hnone
  obtain ⟨texts, htexts, hopen⟩ := h.next.exists_texts
  obtain ⟨rest, hover, htokens⟩ := hopen.owes_top
  obtain rfl := hover.unique hnothing
  rw [List.append_nil] at htokens
  rw [hbelow] at hopen
  generalize w.next.top = number at htexts hopen htokens
  cases hopen with
  | outermost _ =>
    by_cases hzero : text = 0
    · subst hzero
      exact ⟨htokens, fun hpos => absurd hpos (lt_irrefl 0)⟩
    · obtain ⟨hleft, hall⟩ := h.next.settled text hle (by simpa [htexts] using hzero)
      exact ⟨hall, fun _ => hleft⟩

end Kept

end Watched

/-! ### Streams in order -/

namespace Root

/-- The stream of a root, if it can be read. -/
def stream (library : Library) : Root → Except (Report Fault) (Stream κ)
  | text characters => .ok (.ofText characters)
  | file path => Stream.ofFile library path

/-- The stream of a root with a scanner and a buffer. -/
def bufferedStream (library : Library) : Root → Except (Report Fault) (BufferedStream κ)
  | text characters => .ok (.ofText characters)
  | file path => BufferedStream.ofFile library path

/-- Both streams of a root start at the same place, with all its tokens ahead. -/
theorem start_of_bufferedStream {r : Root} {b : BufferedStream κ} {tokens : List Token}
    (hb : r.bufferedStream library = .ok b) (htokens : r.tokens? library = some tokens) :
    b.below = [] ∧ b.top.Over tokens ∧ ∃ s, r.stream library = .ok s ∧ b.Shows s := by
  cases r with
  | text characters =>
    cases hb
    exact ⟨rfl, ⟨Nat.zero_le 1, Cursor.over_ofText htokens⟩, _, rfl, .start _ _⟩
  | file path =>
    cases htext : library.files.readText library.config path with
    | error cause => simp [bufferedStream, BufferedStream.ofFile, htext] at hb
    | ok text =>
      have hstream : Root.stream (κ := κ) library (.file path) = .ok
          { top := { source := path.toText, path := some path, cursor := .ofText path.toText text } } := by
        simp [stream, Stream.ofFile, htext]
      simp only [bufferedStream, BufferedStream.ofFile, htext, Except.ok.injEq] at hb
      subst hb
      exact ⟨rfl, ⟨Nat.zero_le 1, Library.over_of_tokens? htext htokens⟩, _, hstream, .start _ _⟩

/-- A sequence of calls on the stream of a root, in which all files that are opened can be scanned to their ends.  What
a text has delivered is the beginning of its tokens.  A text is left once at most.  When a text delivers a token, it
has not been left, and all texts opened later have been; when it is left, it has delivered all its tokens, all texts
opened later have been left, and what it was opened with is handed out, with the name of the text that it was opened
in.  When the stream has no more tokens, all texts have delivered all theirs, and all but the outermost one have been
left.  What the stream answers to any further call is what the log says.  The stream without buffers has answered all
calls in the same way. -/
theorem stream_in_order {r : Root} {b : BufferedStream κ} {tokens : List Token} (hb : r.bufferedStream library = .ok b)
    (htokens : r.tokens? library = some tokens) {cs : List (Call κ)} {w : Watched κ}
    (hw : Watched.calls library { stream := b } cs = w)
    (hfiles : ∀ opening ∈ openings w.log, ∃ tokens, library.tokens? opening.path = some tokens) :
    (∀ text, deliveredFrom text w.log <+: (tokensOf? library tokens w.log text).getD []) ∧
    (∀ text, timesLeft text w.log ≤ 1) ∧
    (∀ earlier text t later, w.log = earlier ++ .delivered text t :: later →
      timesLeft text earlier = 0 ∧ LaterLeft earlier text) ∧
    (∀ earlier text handed later, w.log = earlier ++ .left text handed :: later →
      tokensOf? library tokens earlier text = some (deliveredFrom text earlier) ∧ LaterLeft earlier text ∧
      ∃ i opening, text = i + 1 ∧ (openings earlier)[i]? = some opening ∧
        handed = opening.onClose.map (·, opening.within)) ∧
    (w.stream.next.1 = .ok none → ∀ text, text ≤ (openings w.next.log).length →
      tokensOf? library tokens w.next.log text = some (deliveredFrom text w.next.log) ∧
      (0 < text → timesLeft text w.next.log = 1)) ∧
    (∀ c, (w.call library c).stream = (w.stream.answer library c).2 ∧
      ∃ deeds, (w.call library c).log = w.log ++ deeds ∧
        (openings deeds).map (·.path) = (w.stream.answer library c).1.path?.toList ∧
        deeds.filterMap Deed.token? = (w.stream.answer library c).1.token?.toList ∧
        deeds.filterMap Deed.handed? = (w.stream.answer library c).1.handed) ∧
    ∃ s, r.stream library = .ok s ∧
      (Call.answers (Stream.answer library) s cs).1 = (Call.answers (BufferedStream.answer library) b cs).1 ∧
      w.stream.Shows (Call.answers (Stream.answer library) s cs).2 := by
  obtain ⟨hbelow, hover, s, hs, hshows⟩ := start_of_bufferedStream hb htokens
  subst hw
  have hkept := (Watched.kept_start hbelow hover).calls cs hfiles
  obtain ⟨hanswers, hlast⟩ := hshows.answers library cs
  rw [← Watched.calls_agree { stream := b }] at hlast
  refine ⟨hkept.deliveredFrom_isPrefix, hkept.timesLeft_le_one, ?_, ?_, ?_, Watched.call_agrees _ library,
    s, hs, hanswers, hlast⟩
  · intro earlier text t later hlog
    exact hkept.inOrder earlier _ later hlog
  · intro earlier text handed later hlog
    obtain ⟨_, hlater, hall, hopening⟩ := hkept.inOrder earlier _ later hlog
    exact ⟨hall, hlater, hopening⟩
  · intro hnone text hle
    exact hkept.of_next_eq_none hnone hle

end Root

end Texts

/-! ### A text that opens a file -/

namespace OneInclude

/-- A library with one file. -/
def library : Library :=
  ⟨{ one_le_maxIncludeDepth := Config.one_le_defaultDepth },
    (FileTree.directory [("a", .file "y".toUTF8.toList)]).fileSystem []⟩

def x : Token :=
  ⟨.identifier "x", 1⟩

def y : Token :=
  ⟨.identifier "y", 1⟩

/-- The stream of a text of one token. -/
def stream : BufferedStream Nat where
  top := { scanner := { source := "<string>", rest := ['x'] }, path := none }

/-- The outer text when its token has been looked at: the scanner has gone on, and the token is in the buffer. -/
def outer : BufferedFrame Nat where
  scanner := { source := "<string>", rest := [] }
  path := none
  lookahead := [x]

/-- The stream when the file has been opened. -/
def inner : BufferedStream Nat where
  top :=
    { scanner := { source := "a", rest := ['y'] }, path := some { names := ["a"] }, includeLine := some 1,
      onClose := some 7 }
  below := [outer]

def opening : Opening Nat :=
  ⟨{ names := ["a"] }, "<string>", some 7⟩

/-- The file is opened when the token of the text has been looked at, before it is taken. -/
def calls : List (Call Nat) :=
  [.peek, .openFile "a" (some 1) (some 7), .next, .next]

/-- What the calls do. -/
def watched : Watched Nat where
  stream := { top := { outer with lookahead := [] } }
  log := [.opened opening, .delivered 1 y, .left 1 (some (7, "<string>")), .delivered 0 x]

private theorem readText_file : library.files.readText library.config { names := ["a"] } = .ok "y".toList := by
  cbv

private theorem toText_file : ({ names := ["a"] } : Path).toText = "a" := by
  cbv

private theorem tokens_text : Root.tokens? library (.text "x".toList) = some [x] := by
  show (Scanner.ofText _ _).tokens.toOption = _
  cbv

private theorem tokens_file : library.tokens? { names := ["a"] } = some [y] := by
  have hcursor : Cursor.ofText "a" "y".toList = { items := [.token y], stuck := none } := by cbv
  exact Library.tokens?_eq_some readText_file (toText_file ▸ hcursor ▸ ⟨rfl, rfl⟩)

private theorem peek_text : BufferedStream.peek stream = .ok (some x) { top := outer } := by
  cbv

private theorem openFile_file :
    BufferedStream.openFile library "a" (some 1) (some 7) { top := outer } = .ok { names := ["a"] } inner := by
  have hpath : Path.ofString "a" = { names := ["a"] } := by cbv
  have hfile : OpenPaths.fileFor [none] library "a" = .ok ({ names := ["a"] }, "y".toList) := by
    refine OpenPaths.fileFor_eq_ok.2 ⟨?_, by decide, rfl, readText_file⟩
    rw [OpenPaths.resolve, hpath]
    rfl
  have hpaths : BufferedStream.paths { top := outer } = [none] := rfl
  rw [BufferedStream.openFile_apply, hpaths, hfile]
  dsimp only
  rw [BufferedStream.push, toText_file]
  rfl

private theorem calls_stream : Watched.calls library { stream } calls = watched := by
  let seen : Watched Nat := { stream := { top := outer } }
  let opened : Watched Nat := { stream := inner, texts := [1, 0], log := [.opened opening] }
  have hpeek : Watched.peek { stream } = seen := by
    unfold Watched.peek
    rw [peek_text]
  have hopen : seen.openFile library "a" (some 1) (some 7) = opened := by
    unfold Watched.openFile
    rw [openFile_file]
    rfl
  let ended : BufferedFrame Nat := { inner.top with scanner := { source := "a", rest := [] } }
  have hfile : opened.stream.advance = .token y { inner with top := ended } := by cbv
  have hend : (opened.deliver y { inner with top := ended }).stream.advance = .closed ended { top := outer } := by cbv
  have htext : ((opened.deliver y { inner with top := ended }).leave ended { top := outer }).stream.advance =
      .token x watched.stream := by cbv
  have hdelivered : opened.next = opened.deliver y { inner with top := ended } := Watched.next_of_token hfile
  show (Watched.openFile (Watched.peek { stream }) library "a" (some 1) (some 7)).next.next = _
  rw [hpeek, hopen, hdelivered, Watched.next_of_closed hend, Watched.next_of_token htext]
  rfl

/-- The text delivers its token when the file has delivered its own and been left, and then all is delivered. -/
theorem one_include_in_order :
    Root.bufferedStream library (.text "x".toList) = .ok stream ∧
    Root.tokens? library (.text "x".toList) = some [x] ∧
    Watched.calls library { stream } calls = watched ∧
    (∀ opening ∈ openings watched.log, ∃ tokens, library.tokens? opening.path = some tokens) ∧
    deliveredFrom 1 watched.log <+: [y] ∧
    LaterLeft [.opened opening, .delivered 1 y, .left 1 (some (7, "<string>"))] 0 ∧
    timesLeft 1 watched.next.log = 1 := by
  have hstream : Root.bufferedStream library (.text "x".toList) = .ok stream := by cbv
  have hfiles : ∀ opening ∈ openings watched.log, ∃ tokens, library.tokens? opening.path = some tokens := by
    intro o ho
    obtain rfl : o = opening := List.mem_singleton.1 ho
    exact ⟨[y], tokens_file⟩
  obtain ⟨hdelivered, _, hlater, _, hend, _⟩ := Root.stream_in_order hstream tokens_text calls_stream hfiles
  have hfirst : deliveredFrom 1 watched.log <+: [y] := by
    have htokens : tokensOf? library [x] watched.log 1 = some [y] := tokens_file
    have hprefix := hdelivered 1
    rwa [htokens] at hprefix
  have hnone : watched.stream.next.1 = .ok none := by
    have hadvance : watched.stream.advance = .finished watched.stream := by cbv
    rw [BufferedStream.next_of_finished hadvance]
  have hopened : 1 ≤ (openings watched.next.log).length :=
    ((watched.log_isPrefix_call library .next).filterMap Deed.opening?).length_le
  exact ⟨hstream, tokens_text, calls_stream, hfiles, hfirst, (hlater _ 0 x [] rfl).2, (hend hnone 1 hopened).2 one_pos⟩

end OneInclude

end SceneDescription
