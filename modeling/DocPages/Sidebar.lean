import DocPages.Document
import DocPages.Notice

/-! The sidebar. In the desktop layout it is always there; in the mobile layout it slides in and
out, and is hidden only when it has slid out. -/

namespace DocPages

open Document

structure Sidebar where
  active : Bool
  mobile : Bool
  /-- It is sliding out and will be hidden. -/
  pendingHide : Bool
  deriving DecidableEq, Repr

namespace Sidebar

def initial : Sidebar := ⟨false, false, false⟩

def shown : String := "translateX(0%)"

def offScreen : String := "translateX(-100%)"

/-- What an event does: the new state, the changes to the sidebar's style, and what is reported. -/
structure Effect where
  state : Sidebar
  edits : List StyleEdit
  notices : List Notice
  deriving DecidableEq, Repr

def slideOut (s : Sidebar) : Effect :=
  ⟨{ s with active := false, pendingHide := true }, [⟨"transform", offScreen⟩], [.sidebarClosing]⟩

/-- The header button was pressed. -/
def toggle (s : Sidebar) : Effect :=
  if !s.mobile then ⟨s, [], []⟩
  else if s.active then s.slideOut
  else ⟨{ s with active := true, pendingHide := false },
    [⟨"transform", shown⟩, ⟨"visibility", "visible"⟩], [.sidebarOpened]⟩

/-- A link of the sidebar was followed. -/
def close (s : Sidebar) : Effect := if s.mobile then s.slideOut else ⟨s, [], []⟩

/-- The sidebar's transition has ended. -/
def transitionEnd (s : Sidebar) : Effect :=
  if s.pendingHide then ⟨{ s with pendingHide := false }, [⟨"visibility", "hidden"⟩], []⟩
  else ⟨s, [], []⟩

def applyLayout (s : Sidebar) : Layout → Effect
  | .desktop =>
    ⟨{ s with mobile := false, pendingHide := false }, [⟨"visibility", ""⟩, ⟨"transform", ""⟩], []⟩
  | .mobile => ⟨⟨false, true, false⟩, [⟨"visibility", "hidden"⟩, ⟨"transform", offScreen⟩], []⟩

end Sidebar

end DocPages
