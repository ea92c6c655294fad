import CodePad.Main
import CodePad.Pattern.Written
import CodePad.Proofs.Buffer.Braces
import CodePad.Proofs.Buffer.Column
import CodePad.Proofs.Buffer.Goal
import CodePad.Proofs.Buffer.LineBreak
import CodePad.Proofs.Buffer.Parts
import CodePad.Proofs.Buffer.Toggle
import CodePad.Proofs.Buffer.UpToDate
import CodePad.Proofs.Document.Cover
import CodePad.Proofs.Document.Merge
import CodePad.Proofs.Editor.Effects
import CodePad.Proofs.Editor.Plain
import CodePad.Proofs.Editor.Session
import CodePad.Proofs.Lexer.Scan
import CodePad.Proofs.Lexer.Words
import CodePad.Proofs.Screen.Cuts
import CodePad.Proofs.Screen.Fit
import CodePad.Proofs.Screen.Status
import CodePad.Proofs.Screen.Styles
import CodePad.Proofs.Token.Greedy
import CodePad.Proofs.Rule.Greedy
import CodePad.Proofs.Lexer.Add
import CodePad.Proofs.Screen.Budget
import CodePad.Proofs.Selection
import CodePad.Proofs.Settings.Read
import CodePad.Proofs.Settings.Theme
