import TrainingDemos.Transitions
import TrainingDemos.Tables
import TrainingDemos.Loops
import TrainingDemos.BookStore.ObjectGraph
import TrainingDemos.BookStore.AddBookVC
import TrainingDemos.BookStore.ViewController
import TrainingDemos.BookStore.GraphLaws
import TrainingDemos.BookStore.Ownership
import TrainingDemos.BookStore.SaveLaws
import TrainingDemos.BookStore.Shelf
import TrainingDemos.BookStore.Steps
import TrainingDemos.BookStore.Targeting
import TrainingDemos.BookStore.Frame
import TrainingDemos.BookStore.EditSession
import TrainingDemos.BookStore.Stocked
import TrainingDemos.BookStore.CommitLaw
import TrainingDemos.BookStore.FailedSaves
import TrainingDemos.BookStore.ExactlyOnce
import TrainingDemos.BookStore.ForeignKeys
import TrainingDemos.BookStore.ImageFiles
import TrainingDemos.IntegerText
import TrainingDemos.DocumentStore
import TrainingDemos.FirebasePractise.DataManager
import TrainingDemos.FirebasePractise.Forms
import TrainingDemos.FirebasePractise.Screens
import TrainingDemos.FirebasePractise.StoredDocuments
import TrainingDemos.FirebasePractise.Visits
import TrainingDemos.FirebasePractise.RowTargeting
import TrainingDemos.FirebasePractise.FieldFrame
import TrainingDemos.FirebasePractise.RoundTrips
import TrainingDemos.FirebasePractise.Fruits
import TrainingDemos.FirebasePractise.Decoders
import TrainingDemos.FirebasePractise.ForcedUnwraps
import TrainingDemos.FirebasePractise.Session
import TrainingDemos.FirebasePractise.SessionAgreement
import TrainingDemos.FirebasePractise.SignupStages
import TrainingDemos.FirebasePractise.SessionTurns
import TrainingDemos.FirebasePractise.FruitScreens
import TrainingDemos.FirebasePractise.Uploads
import TrainingDemos.FirebasePractise.Pictures
import TrainingDemos.FirebasePractise.PictureBalance
import TrainingDemos.FirebasePractise.StoredImages
import TrainingDemos.FirebasePractise.FetchedLists
import TrainingDemos.FirebasePractise.TableCells
import TrainingDemos.FirebasePractise.AddVisits
import TrainingDemos.FirebasePractise.FruitOwnership
import TrainingDemos.BookStore.ListScreen
import TrainingDemos.RowMoves
import TrainingDemos.TblCollDemo.ViewController
import TrainingDemos.TblCollDemo.RowTracking
import TrainingDemos.Toggles
import TrainingDemos.DempApp.ViewController
import TrainingDemos.JoinedTexts
import TrainingDemos.MapWebDemo.MapVC
import TrainingDemos.Drafts
import TrainingDemos.PickerViewDemo.ViewController
import TrainingDemos.PickerViewDemo.EditingSessions
import TrainingDemos.PickerViewDemo.DoneCommits
import TrainingDemos.ByteText
import TrainingDemos.CollDemo.Hashing
import TrainingDemos.JsonTrees
import TrainingDemos.ApiDemo.DataModel
import TrainingDemos.ApiDemo.ViewController
import TrainingDemos.ApiDemo.Agreement
import TrainingDemos.PickerViewDemo.Transactions
import TrainingDemos.ApiDemo.Traps
import TrainingDemos.Refinements
import TrainingDemos.Durability
import TrainingDemos.BookStore.Lives
import TrainingDemos.BookStore.ShelfRefinement
import TrainingDemos.PickerViewDemo.FormRefinement
import TrainingDemos.PickerViewDemo.ProgressBar
import TrainingDemos.TimeOrder
import TrainingDemos.FirebasePractise.ListOrder
import TrainingDemos.LastWrites
import TrainingDemos.FirebasePractise.Devices
import TrainingDemos.ApiDemo.Reloads
import TrainingDemos.ByteReading
import TrainingDemos.CollDemo.HashTexts
import TrainingDemos.Notifications
import TrainingDemos.NotiDemo.Invitations
import TrainingDemos.LocalNotificationDemo.AppDelegate
import TrainingDemos.FirebasePractise.GoogleSignIn
import TrainingDemos.MapWebDemo.Pins
import TrainingDemos.TblCollDemo.Screens
import TrainingDemos.ScalarShift
import TrainingDemos.CountryPicker.ContentView
import TrainingDemos.FirebasePractise.FruitWrites
import TrainingDemos.FirebasePractise.FruitSnapshots
import TrainingDemos.FirebasePractise.FruitReads
