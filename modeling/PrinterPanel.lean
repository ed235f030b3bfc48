import PrinterPanel.Panel.Operation
import PrinterPanel.Proofs.DisplayFailure
import PrinterPanel.Proofs.EditSession
import PrinterPanel.Proofs.Positions
import PrinterPanel.Proofs.PrintScreen
import PrinterPanel.Settings.File
import PrinterPanel.Settings.Stored
import PrinterPanel.Proofs.Navigation
import PrinterPanel.Proofs.Priority
import PrinterPanel.Proofs.Settled
import PrinterPanel.Proofs.Commands
import PrinterPanel.Proofs.Question
import PrinterPanel.Proofs.Drafts
import PrinterPanel.Proofs.Stepping
import PrinterPanel.Proofs.EditHistory
import PrinterPanel.Proofs.Acceptance
import PrinterPanel.Proofs.Extrusion
import PrinterPanel.Proofs.PresetEdits
import PrinterPanel.Proofs.Walks
import PrinterPanel.Proofs.PrintReach
import PrinterPanel.Proofs.LoadedSettings
import PrinterPanel.Proofs.KeyDrawings
import PrinterPanel.Proofs.Readings
import PrinterPanel.Proofs.StatusArea
import PrinterPanel.Proofs.FreshStatus
import PrinterPanel.Proofs.Popups
import PrinterPanel.Proofs.Probing
import PrinterPanel.Proofs.FolderContents
import PrinterPanel.Proofs.Listings
import PrinterPanel.Proofs.Escapes
import PrinterPanel.Proofs.Compositions
import PrinterPanel.Proofs.Backlight
import PrinterPanel.Proofs.Coordinates
import PrinterPanel.Proofs.Layout
import PrinterPanel.Proofs.WordWrap
import PrinterPanel.Proofs.RowScreen
import PrinterPanel.Proofs.Scrolling
import PrinterPanel.Proofs.PopupCallers
import PrinterPanel.Proofs.Highlight
import PrinterPanel.Proofs.Transactions
import PrinterPanel.Proofs.Refusals
import PrinterPanel.Proofs.Homing
import PrinterPanel.Proofs.Returns
import PrinterPanel.Proofs.Announcements
import PrinterPanel.Proofs.Detents
import PrinterPanel.Proofs.TimeOrigin
import PrinterPanel.Proofs.Presses
import PrinterPanel.Proofs.TimeLeft
import PrinterPanel.Proofs.ChangingLists
import PrinterPanel.Proofs.PinText
import PrinterPanel.Proofs.UsableSettings
import PrinterPanel.Proofs.ProbeSession
