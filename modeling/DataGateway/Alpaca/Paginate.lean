import DataGateway.Python.OrderedDict

/-!
# Pages of one answer

The endpoints of Alpaca answer in pages, each with the token of the next.  `_paginate` follows the
tokens, adds the items of the pages up by symbol, and cuts the whole at a limit.
-/

namespace DataGateway
namespace Alpaca

/-- The query of a request, which the loop changes. -/
abbrev Params := OrderedDict String String

/-- What a response says. -/
structure Page (Item : Type) where
  /-- `data.get(data_key, {})`. -/
  data : OrderedDict String (List Item)
  /-- `data.get("next_page_token")`. -/
  nextPageToken : Option String

/-- What is raised. -/
inductive PaginateError
  /-- `RuntimeError(ERR_PROVIDER_NOT_INITIALIZED)`. -/
  | notInitialized
  /-- The request fails, has a bad status, or its response is no page. -/
  | requestFailed
  deriving DecidableEq

/-- The service: what it answers to a request, after the requests before it. -/
abbrev Client (Item : Type) := List Params → Params → Except PaginateError (Page Item)

variable {Item : Type}

/-- `next_token`, if it is true. -/
def Page.nextToken (page : Page Item) : Option String := page.nextPageToken.filter (· ≠ "")

/-- What the loop has collected. -/
structure Collected (Item : Type) where
  bySymbol : OrderedDict String (List Item)
  total : Nat

namespace Collected

/-- Before the first page. -/
def empty : Collected Item := ⟨.empty, 0⟩

/-- `collected.setdefault(symbol, []).extend(items)`, and `total += len(items)`. -/
def extend (collected : Collected Item) (entry : String × List Item) : Collected Item where
  bySymbol := collected.bySymbol.set entry.1
    ((collected.bySymbol.get? entry.1).getD [] ++ entry.2)
  total := collected.total + entry.2.length

/-- The items of a page. -/
def addPage (collected : Collected Item) (page : Page Item) : Collected Item :=
  page.data.items.foldl extend collected

/-- `limit is not None and total >= limit`. -/
def reaches (collected : Collected Item) (limit : Option Int) : Bool :=
  limit.any (· ≤ (collected.total : Int))

end Collected

/-- The loop over the pages, with the requests that it has made; it may need more steps. -/
def paginateLoop (client : Client Item) (limit : Option Int) :
    Nat → List Params → Params → Collected Item →
      Option (Except PaginateError (List Params × Collected Item))
  | 0, _, _, _ => none
  | steps + 1, requests, params, collected =>
      match client requests params with
      | .error error => some (.error error)
      | .ok page =>
          let collected := collected.addPage page
          match page.nextToken with
          | none => some (.ok (requests ++ [params], collected))
          | some token =>
              if collected.reaches limit then some (.ok (requests ++ [params], collected))
              else paginateLoop client limit steps (requests ++ [params])
                (params.set "page_token" token) collected

/-- The loop that fills a budget, symbol by symbol. -/
def trim : Int → List (String × List Item) → List (String × List Item)
  | _, [] => []
  | budget, (symbol, items) :: rest =>
      let take := min (items.length : Int) budget
      let left := if 0 < take then budget - take else budget
      let rest := if left ≤ 0 then [] else trim left rest
      if 0 < take then (symbol, items.take take.toNat) :: rest else rest

/-- Without a budget nothing is taken. -/
theorem trim_of_le {budget : Int} (none : budget ≤ 0) (entries : List (String × List Item)) :
    trim budget entries = [] := by
  cases entries with
  | nil => rfl
  | cons entry rest =>
      have take : ¬0 < min (entry.2.length : Int) budget := by omega
      simp [trim, take, none]

/-- With a budget the first symbol gets what it has, and the others what is left. -/
theorem trim_cons {budget : Int} (some : 0 < budget) (symbol : String) (items : List Item)
    (rest : List (String × List Item)) :
    trim budget ((symbol, items) :: rest) =
      (if items = [] then [] else [(symbol, items.take budget.toNat)]) ++
        trim (budget - items.length) rest := by
  by_cases empty : items = []
  · subst empty
    simp [trim, some.not_ge, some.le]
  have length : 0 < items.length := List.length_pos_iff.mpr empty
  have take : 0 < min (items.length : Int) budget := by omega
  have cut : items.take (min (items.length : Int) budget).toNat = items.take budget.toNat := by
    rcases le_total (items.length : Int) budget with fits | over_
    · rw [min_eq_left fits, Int.toNat_natCast, List.take_length, List.take_of_length_le (by omega)]
    · rw [min_eq_right over_]
  have later : (if budget - min (items.length : Int) budget ≤ 0 then []
      else trim (budget - min (items.length : Int) budget) rest) =
        trim (budget - items.length) rest := by
    split
    next spent => rw [trim_of_le (by omega)]
    next left => rw [min_eq_left (by omega)]
  simp only [trim, if_pos take, later, cut, if_neg empty, List.singleton_append]

theorem trim_sublist (budget : Int) (entries : List (String × List Item)) :
    ((trim budget entries).map Prod.fst).Sublist (entries.map Prod.fst) := by
  induction entries generalizing budget with
  | nil => exact .slnil
  | cons entry rest ih =>
      rcases le_or_gt budget 0 with none | some
      · rw [trim_of_le none]
        exact List.nil_sublist _
      · rw [trim_cons some]
        split
        next => exact (ih _).cons _
        next => exact (ih _).cons_cons _

/-- What is taken is the budget, or everything. -/
theorem length_trim (budget : Int) (entries : List (String × List Item)) :
    ((trim budget entries).flatMap Prod.snd).length =
      min budget.toNat (entries.flatMap Prod.snd).length := by
  induction entries generalizing budget with
  | nil => simp [trim]
  | cons entry rest ih =>
      rcases le_or_gt budget 0 with none | some
      · rw [trim_of_le none, Int.toNat_of_nonpos none]
        simp
      · rw [trim_cons some, List.flatMap_append, List.length_append, ih]
        split
        next empty => simp [empty]
        next =>
          simp only [List.flatMap_cons, List.flatMap_nil, List.append_nil, List.length_take,
            List.length_append]
          omega

/-- What is taken of a symbol is the beginning of its items. -/
theorem prefix_of_mem_trim {budget : Int} {entries : List (String × List Item)} {symbol : String}
    {taken : List Item} (mem : (symbol, taken) ∈ trim budget entries) :
    ∃ items, (symbol, items) ∈ entries ∧ taken <+: items := by
  induction entries generalizing budget with
  | nil => cases mem
  | cons entry rest ih =>
      rcases le_or_gt budget 0 with none | some
      · rw [trim_of_le none] at mem
        cases mem
      · rw [trim_cons some] at mem
        rcases List.mem_append.mp mem with here | later
        · split at here
          · cases here
          · cases List.mem_singleton.mp here
            exact ⟨entry.2, .head _, List.take_prefix _ _⟩
        · obtain ⟨items, among, initial⟩ := ih later
          exact ⟨items, .tail _ among, initial⟩

/-- What is left of the items within a limit. -/
def Collected.truncate (collected : Collected Item) (limit : Option Int) :
    OrderedDict String (List Item) :=
  match limit with
  | none => collected.bySymbol
  | some limit =>
      if limit < collected.total then
        { items := trim limit collected.bySymbol.items
          nodup := collected.bySymbol.nodup.sublist (trim_sublist _ _) }
      else collected.bySymbol

/-- What a call returns, and the requests it has made. -/
structure Paginated (Item : Type) where
  requests : List Params
  bySymbol : OrderedDict String (List Item)

/-- `_paginate`, for a number of steps. -/
def paginate (client : Option (Client Item)) (params : Params) (limit : Option Int) (steps : Nat) :
    Option (Except PaginateError (Paginated Item)) :=
  match client with
  | none => some (.error .notInitialized)
  | some client =>
      (paginateLoop client limit steps [] params .empty).map fun ended =>
        ended.map fun (requests, collected) => ⟨requests, collected.truncate limit⟩

/-! ## Chains of pages -/

/-- Pages that are linked by their tokens: each is the answer to the request that names the token of
the one before, and the last has none. -/
inductive Linked (client : Client Item) : List Params → Params → List (Page Item) → Prop
  | last {requests params page} (answer : client requests params = .ok page)
      (done : page.nextToken = none) : Linked client requests params [page]
  | next {requests params page token rest} (answer : client requests params = .ok page)
      (more : page.nextToken = some token)
      (later : Linked client (requests ++ [params]) (params.set "page_token" token) rest) :
      Linked client requests params (page :: rest)

/-- The items of a symbol, over all pages in order. -/
def itemsOf (pages : List (Page Item)) (symbol : String) : List Item :=
  pages.flatMap fun page => (page.data.get? symbol).getD []

/-- The number of items of all pages. -/
def itemCount (pages : List (Page Item)) : Nat :=
  (pages.flatMap fun page => page.data.items.flatMap Prod.snd).length

namespace Collected

/-- The sum is that of the lists. -/
def Counts (collected : Collected Item) : Prop :=
  collected.total = (collected.bySymbol.items.flatMap Prod.snd).length

theorem Counts.extend {collected : Collected Item} (counts : collected.Counts)
    (entry : String × List Item) : (collected.extend entry).Counts := by
  have perm := collected.bySymbol.perm_set_append entry.1 entry.2
  have length := perm.length_eq
  rw [List.length_append, ← counts] at length
  exact length.symm

theorem Counts.addPage {collected : Collected Item} (counts : collected.Counts) (page : Page Item) :
    (collected.addPage page).Counts := by
  unfold Collected.addPage
  induction page.data.items generalizing collected with
  | nil => exact counts
  | cons entry rest ih => exact ih (counts.extend entry)

theorem total_addPage (collected : Collected Item) (page : Page Item) :
    (collected.addPage page).total =
      collected.total + (page.data.items.flatMap Prod.snd).length := by
  unfold addPage
  induction page.data.items generalizing collected with
  | nil => rfl
  | cons entry rest ih =>
      rw [List.foldl_cons, ih, List.flatMap_cons, List.length_append]
      exact Nat.add_assoc _ _ _

theorem get?_extend (collected : Collected Item) (entry : String × List Item) (symbol : String) :
    (collected.extend entry).bySymbol.get? symbol =
      if symbol = entry.1 then some ((collected.bySymbol.get? symbol).getD [] ++ entry.2)
      else collected.bySymbol.get? symbol := by
  rw [extend, OrderedDict.get?_set]
  split
  next same => rw [same]
  next => rfl

theorem get?_foldl_extend {entries : List (String × List Item)}
    (nodup : (entries.map Prod.fst).Nodup) (collected : Collected Item) (symbol : String) :
    (entries.foldl extend collected).bySymbol.get? symbol =
      match (entries.find? fun entry => entry.1 = symbol).map Prod.snd with
      | none => collected.bySymbol.get? symbol
      | some items => some ((collected.bySymbol.get? symbol).getD [] ++ items) := by
  induction entries generalizing collected with
  | nil => rfl
  | cons entry rest ih =>
      obtain ⟨fresh, nodup⟩ := List.nodup_cons.mp nodup
      rw [List.foldl_cons, ih nodup, get?_extend]
      by_cases here : entry.1 = symbol
      · have none : rest.find? (fun entry => entry.1 = symbol) = none := by
          refine List.find?_eq_none.mpr fun other mem same => fresh ?_
          rw [here, ← of_decide_eq_true same]
          exact List.mem_map_of_mem mem
        simp [here, none]
      · simp [here, Ne.symm here]

/-- The list of a symbol grows by what a page has of it. -/
theorem get?_addPage (collected : Collected Item) (page : Page Item) (symbol : String) :
    (collected.addPage page).bySymbol.get? symbol =
      match page.data.get? symbol with
      | none => collected.bySymbol.get? symbol
      | some items => some ((collected.bySymbol.get? symbol).getD [] ++ items) :=
  get?_foldl_extend page.data.nodup collected symbol

/-- After some pages a symbol has its items of all of them. -/
theorem getD_foldl_addPage (collected : Collected Item) (pages : List (Page Item))
    (symbol : String) :
    ((pages.foldl addPage collected).bySymbol.get? symbol).getD [] =
      (collected.bySymbol.get? symbol).getD [] ++ itemsOf pages symbol := by
  induction pages generalizing collected with
  | nil => simp [itemsOf]
  | cons page rest ih =>
      rw [List.foldl_cons, ih, get?_addPage, itemsOf, itemsOf, List.flatMap_cons,
        ← List.append_assoc]
      cases page.data.get? symbol <;> simp

/-- The symbols are those of the pages. -/
theorem contains_foldl_addPage (collected : Collected Item) (pages : List (Page Item))
    (symbol : String) :
    (pages.foldl addPage collected).bySymbol.contains symbol = true ↔
      collected.bySymbol.contains symbol = true ∨ ∃ page ∈ pages, page.data.contains symbol =
        true := by
  induction pages generalizing collected with
  | nil => simp
  | cons page rest ih =>
      have added : (collected.addPage page).bySymbol.contains symbol = true ↔
          collected.bySymbol.contains symbol = true ∨ page.data.contains symbol = true := by
        unfold OrderedDict.contains
        rw [get?_addPage]
        cases page.data.get? symbol <;> simp
      rw [List.foldl_cons, ih, added, or_assoc]
      simp

theorem total_foldl_addPage (collected : Collected Item) (pages : List (Page Item)) :
    (pages.foldl addPage collected).total = collected.total + itemCount pages := by
  induction pages generalizing collected with
  | nil => rfl
  | cons page rest ih =>
      rw [List.foldl_cons, ih, total_addPage, itemCount, itemCount, List.flatMap_cons,
        List.length_append]
      exact Nat.add_assoc _ _ _

theorem Counts.foldl_addPage {collected : Collected Item} (counts : collected.Counts)
    (pages : List (Page Item)) : (pages.foldl Collected.addPage collected).Counts := by
  induction pages generalizing collected with
  | nil => exact counts
  | cons page rest ih => exact ih (counts.addPage page)

end Collected

/-- From the start the limit is reached with the items of the pages. -/
theorem reaches_iff (limit : Nat) (pages : List (Page Item)) :
    (pages.foldl Collected.addPage .empty).reaches (some limit) = true ↔ limit ≤ itemCount
      pages := by
  have total : (pages.foldl Collected.addPage .empty).total = itemCount pages :=
    (Collected.total_foldl_addPage .empty pages).trans (Nat.zero_add _)
  simp [Collected.reaches, total]

/-! ## The run of the loop -/

/-- How far the loop gets in a chain of pages: it fetches the first pages up to one at which the
limit is reached, or all. -/
structure Fetches (limit : Option Int) (collected : Collected Item)
    (pages fetched : List (Page Item)) :
    Prop where
  initial : fetched <+: pages
  /-- What is left has not been needed. -/
  enough : fetched = pages ∨ (fetched.foldl Collected.addPage collected).reaches limit = true
  /-- A page is only fetched when the pages before it are not enough. -/
  needed : ∀ before page, before ++ [page] <+: fetched → before ≠ [] →
    (before.foldl Collected.addPage collected).reaches limit = false

theorem Fetches.last (limit : Option Int) (collected : Collected Item) (page : Page Item) :
    Fetches limit collected [page] [page] where
  initial := List.prefix_rfl
  enough := .inl rfl
  needed before other initial some := by
    have length := initial.length_le
    have := List.length_pos_iff.mpr some
    simp only [List.length_append, List.length_cons, List.length_nil] at length
    omega

/-- The loop ends, after the pages that are needed. -/
theorem paginateLoop_of_linked {client : Client Item} (limit : Option Int)
    {requests : List Params} {params : Params} {pages : List (Page Item)}
    (linked : Linked client requests params pages) (collected : Collected Item) {steps : Nat}
    (enough : pages.length ≤ steps) :
    ∃ fetched asked, Fetches limit collected pages fetched ∧ asked.length = fetched.length ∧
      paginateLoop client limit steps requests params collected =
        some (.ok (requests ++ asked, fetched.foldl Collected.addPage collected)) := by
  induction linked generalizing collected steps with
  | @last requests params page answer done =>
      obtain ⟨steps, rfl⟩ := Nat.exists_eq_succ_of_ne_zero (Nat.pos_iff_ne_zero.mp enough)
      refine ⟨[page], [params], .last limit collected page, rfl, ?_⟩
      simp [paginateLoop, answer, done]
  | @next requests params page token rest answer more later ih =>
      obtain ⟨steps, rfl⟩ := Nat.exists_eq_succ_of_ne_zero (Nat.pos_iff_ne_zero.mp
        (Nat.zero_lt_of_lt enough))
      by_cases reached : (collected.addPage page).reaches limit = true
      · refine ⟨[page], [params],
          ⟨?_, .inr reached, (Fetches.last limit collected page).needed⟩, rfl, ?_⟩
        · exact List.cons_prefix_cons.mpr ⟨rfl, List.nil_prefix⟩
        · simp [paginateLoop, answer, more, reached]
      · obtain ⟨fetched, asked, fetches, length, run⟩ :=
          ih (collected.addPage page) (Nat.le_of_succ_le_succ enough)
        refine ⟨page :: fetched, params :: asked, ⟨?_, ?_, ?_⟩, congrArg Nat.succ length, ?_⟩
        · exact List.cons_prefix_cons.mpr ⟨rfl, fetches.initial⟩
        · rcases fetches.enough with all | enough
          · exact .inl (congrArg _ all)
          · exact .inr enough
        · intro before other initial some
          cases before with
          | nil => exact absurd rfl some
          | cons first before =>
              obtain ⟨rfl, others⟩ := List.cons_prefix_cons.mp initial
              by_cases alone : before = []
              · subst alone
                exact Bool.eq_false_iff.mpr reached
              · exact fetches.needed before other others alone
        · simp [paginateLoop, answer, more, reached, run]

/-! ## The answer -/

theorem itemsOf_initial {fetched pages : List (Page Item)} (initial : fetched <+: pages)
    (symbol : String) : itemsOf fetched symbol <+: itemsOf pages symbol := by
  obtain ⟨rest, rfl⟩ := initial
  rw [itemsOf, itemsOf, List.flatMap_append]
  exact List.prefix_append _ _

theorem itemCount_le {fetched pages : List (Page Item)} (initial : fetched <+: pages) :
    itemCount fetched ≤ itemCount pages := by
  obtain ⟨rest, rfl⟩ := initial
  rw [itemCount, itemCount, List.flatMap_append, List.length_append]
  exact Nat.le_add_right _ _

/-- Of every symbol the beginning is left. -/
theorem truncate_initial (collected : Collected Item) (limit : Option Int) (symbol : String) :
    ((collected.truncate limit).get? symbol).getD [] <+:
      (collected.bySymbol.get? symbol).getD [] := by
  unfold Collected.truncate
  split
  · exact List.prefix_rfl
  next limit =>
    split
    next =>
      cases held : OrderedDict.get? _ symbol with
      | none => exact List.nil_prefix
      | some taken =>
          obtain ⟨items, mem, initial⟩ := prefix_of_mem_trim (OrderedDict.get?_eq_some.mp held)
          rw [OrderedDict.get?_eq_some.mpr mem]
          exact initial
    next => exact List.prefix_rfl

theorem length_truncate {collected : Collected Item} (counts : collected.Counts) (limit : Nat) :
    ((collected.truncate (some limit)).items.flatMap Prod.snd).length =
      min limit collected.total := by
  unfold Collected.truncate
  by_cases over_ : (limit : Int) < collected.total
  · simp only [over_, if_true]
    rw [length_trim, counts, Int.toNat_natCast]
  · simp only [over_, if_false]
    rw [← counts]
    omega

/-- What a call returns after these pages. -/
theorem paginate_of_run {client : Client Item} {params : Params} {limit : Option Int} {steps : Nat}
    {asked : List Params} {collected : Collected Item}
    (run : paginateLoop client limit steps [] params .empty = some (.ok (asked, collected))) :
    paginate (some client) params limit steps = some (.ok ⟨asked, collected.truncate limit⟩) := by
  simp [paginate, run, Except.map]

theorem getD_collected (pages : List (Page Item)) (symbol : String) :
    ((pages.foldl Collected.addPage .empty).bySymbol.get? symbol).getD [] = itemsOf pages symbol :=
  Collected.getD_foldl_addPage .empty pages symbol

/-- Without a limit every page is asked for. -/
theorem paginate_unlimited {client : Client Item} {params : Params} {pages : List (Page Item)}
    (linked : Linked client [] params pages) {steps : Nat} (enough : pages.length ≤ steps) :
    ∃ answer, paginate (some client) params none steps = some (.ok answer) ∧
      answer.requests.length = pages.length ∧ ∀ symbol,
        (answer.bySymbol.contains symbol = true ↔
          ∃ page ∈ pages, page.data.contains symbol = true) ∧
        (answer.bySymbol.get? symbol).getD [] = itemsOf pages symbol := by
  obtain ⟨fetched, asked, fetches, length, run⟩ :=
    paginateLoop_of_linked none linked .empty enough
  have all : fetched = pages := by
    rcases fetches.enough with all | reached
    · exact all
    · cases reached
  subst all
  refine ⟨_, paginate_of_run run, length, fun symbol => ⟨?_, getD_collected fetched symbol⟩⟩
  have nothing : (Collected.empty : Collected Item).bySymbol.contains symbol = false := rfl
  have symbols := Collected.contains_foldl_addPage .empty fetched symbol
  simpa [nothing, Collected.truncate] using symbols

/-- A limit is kept, with the first items of each symbol and no page that is not needed but the
first one, which is asked for also when the limit is 0. -/
theorem paginate_limited {client : Client Item} {params : Params} {pages : List (Page Item)}
    (linked : Linked client [] params pages) {steps : Nat} (enough : pages.length ≤ steps)
    (limit : Nat) :
    ∃ answer, paginate (some client) params (some limit) steps = some (.ok answer) ∧
      (answer.bySymbol.items.flatMap Prod.snd).length = min limit (itemCount pages) ∧
      (∀ symbol, (answer.bySymbol.get? symbol).getD [] <+: itemsOf pages symbol) ∧
      answer.requests.length ≤ pages.length ∧
      ∀ asked, 0 < asked → asked < answer.requests.length →
        itemCount (pages.take asked) < limit := by
  obtain ⟨fetched, asked, fetches, length, run⟩ :=
    paginateLoop_of_linked (some limit) linked .empty enough
  refine ⟨_, paginate_of_run run, ?_, fun symbol => ?_, ?_, ?_⟩
  · have start : (Collected.empty : Collected Item).Counts := rfl
    rw [length_truncate (start.foldl_addPage fetched), Collected.total_foldl_addPage]
    change min limit (0 + itemCount fetched) = min limit (itemCount pages)
    rcases fetches.enough with rfl | reached
    · rw [Nat.zero_add]
    · have within := itemCount_le fetches.initial
      have reached := (reaches_iff limit fetched).mp reached
      omega
  · refine (truncate_initial _ _ symbol).trans ?_
    rw [getD_collected]
    exact itemsOf_initial fetches.initial symbol
  · exact length ▸ fetches.initial.length_le
  · intro count some fewer
    simp only [List.nil_append, length] at fewer
    have initial : pages.take count = fetched.take count := by
      obtain ⟨rest, rfl⟩ := fetches.initial
      rw [List.take_append_of_le_length fewer.le]
    have next : fetched.take count ++ [fetched[count]] <+: fetched := by
      rw [List.take_concat_get']
      exact List.take_prefix _ _
    have begun : fetched.take count ≠ [] := by
      refine List.ne_nil_of_length_pos ?_
      rw [List.length_take]
      omega
    have short := Bool.eq_false_iff.mp (fetches.needed _ _ next begun)
    rw [initial]
    exact Nat.lt_of_not_le fun reached => short ((reaches_iff limit _).mpr reached)

/-- Following the tokens gives every item once, in order; a limit gives the first ones, and no page
is asked for that it does not need. -/
theorem paginate_loses_nothing {client : Client Item} {params : Params} {pages : List (Page Item)}
    (linked : Linked client [] params pages) {steps : Nat} (enough : pages.length ≤ steps) :
    (∃ answer, paginate (some client) params none steps = some (.ok answer) ∧
      answer.requests.length = pages.length ∧ ∀ symbol,
        (answer.bySymbol.contains symbol = true ↔
          ∃ page ∈ pages, page.data.contains symbol = true) ∧
        (answer.bySymbol.get? symbol).getD [] = itemsOf pages symbol) ∧
    ∀ limit : Nat, ∃ answer, paginate (some client) params (some limit) steps = some (.ok answer) ∧
      (answer.bySymbol.items.flatMap Prod.snd).length = min limit (itemCount pages) ∧
      (∀ symbol, (answer.bySymbol.get? symbol).getD [] <+: itemsOf pages symbol) ∧
      answer.requests.length ≤ pages.length ∧
      ∀ asked, 0 < asked → asked < answer.requests.length →
        itemCount (pages.take asked) < limit :=
  ⟨paginate_unlimited linked enough, paginate_limited linked enough⟩

/-! ## Two pages -/

/-- The first of two pages of bars. -/
def firstBars : Page Nat := ⟨⟨[("AAPL", [1, 2]), ("MSFT", [3])], by decide⟩, some "page2"⟩

/-- The second of them. -/
def secondBars : Page Nat := ⟨⟨[("AAPL", [4])], by decide⟩, none⟩

/-- The service that has these pages. -/
def barService : Client Nat := fun _ params =>
  .ok (if params.contains "page_token" then secondBars else firstBars)

/-- A limit of two leaves two bars, and the second page is not asked for. -/
theorem two_bars_of_four : ∃ answer,
    paginate (some barService) .empty (some (2 : Nat)) 2 = some (.ok answer) ∧
      (answer.bySymbol.items.flatMap Prod.snd).length = 2 ∧
      (answer.bySymbol.get? "AAPL").getD [] <+: [1, 2, 4] ∧ answer.requests.length ≤ 1 := by
  have linked : Linked barService [] .empty [firstBars, secondBars] :=
    .next rfl rfl (.last rfl rfl)
  obtain ⟨answer, run, total, initial, -, needed⟩ :=
    (paginate_loses_nothing linked (le_refl 2)).2 2
  refine ⟨answer, run, total, initial "AAPL", Nat.le_of_not_lt fun more => ?_⟩
  exact absurd (needed 1 Nat.one_pos more) (by decide)

end Alpaca
end DataGateway
