import WordSieve.Main
import WordSieve.Report.Benchmark
import WordSieve.Editor.Screen
import WordSieve.Proofs.Criterion.Rules
import WordSieve.Proofs.Condition.Meaning
import WordSieve.Proofs.Session.Coherence
import WordSieve.Proofs.Session.Recomputes
import WordSieve.Proofs.Condition.Unambiguous
import WordSieve.Proofs.Criterion.Letters
import WordSieve.Proofs.Criterion.Normal
import WordSieve.Proofs.Criterion.RoundTrip
import WordSieve.Proofs.Criterion.Everywhere
import WordSieve.Proofs.Session.Typing
import WordSieve.Proofs.Text.Fields
import WordSieve.Proofs.Criterion.Drafts
import WordSieve.Proofs.Prompt.Lines
import WordSieve.Proofs.Prompt.Entering
import WordSieve.Proofs.Editor.Cursor
import WordSieve.Proofs.Sieve.Paging
import WordSieve.Proofs.Editor.Loading
import WordSieve.Proofs.Editor.Delivery
import WordSieve.Proofs.Prompt.Conversation
import WordSieve.Proofs.Json.Tokens
import WordSieve.Proofs.WordList.Formats
import WordSieve.Proofs.Editor.Waiting
import WordSieve.Proofs.Editor.Showing
import WordSieve.Proofs.Condition.Tests
import WordSieve.Proofs.Benchmark.Draws
import WordSieve.Proofs.Benchmark.Figures
import WordSieve.Proofs.Filter.Pages
import WordSieve.Proofs.Text.Numeral
import WordSieve.Proofs.Text.AsciiCase
import WordSieve.Proofs.Criterion.Grammar
import WordSieve.Proofs.Criterion.Typing
import WordSieve.Proofs.Editor.Typing
import WordSieve.Proofs.Timer.History
import WordSieve.Proofs.Session.Loads
import WordSieve.Proofs.Condition.Form
import WordSieve.Proofs.Prompt.Grammar
import WordSieve.Proofs.Editor.Letters
import WordSieve.Proofs.Sieve.Faults
import WordSieve.Proofs.Prompt.Numbers
import WordSieve.Proofs.Word.Reading
import WordSieve.Proofs.Report.Grid
import WordSieve.Proofs.Editor.Rows
